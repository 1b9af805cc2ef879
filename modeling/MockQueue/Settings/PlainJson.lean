import MockQueue.Settings.Json
import MockQueue.Settings.Token

/-!
# A plain codec

A writer and a reader of JSON for settings, without the wording of what cannot be read. Settings are read from an
object or an array. In an object the members come in any order, each at most once; a missing one has its
default and an unknown one is passed over. In an array they come in a fixed order, and those at the end may be
missing.
-/

namespace MockQueue.Settings

/-! ## Writing -/

def jsonChar (c : Char) : List Char :=
  if c = '"' then ['\\', '"']
  else if c = '\\' then ['\\', '\\']
  else if c = '\x08' then ['\\', 'b']
  else if c = '\x0c' then ['\\', 'f']
  else if c = '\n' then ['\\', 'n']
  else if c = '\r' then ['\\', 'r']
  else if c = '\t' then ['\\', 't']
  else if c.toNat < 0x20 then
    let digits := (Number.Radix.hex false).digits c.toNat
    ['\\', 'u'] ++ List.replicate (4 - digits.length) '0' ++ digits
  else [c]

def jsonString (text : List Char) : List Char :=
  '"' :: (text.flatMap jsonChar ++ ['"'])

def jsonBool (b : Bool) : List Char :=
  if b then "true".toList else "false".toList

def jsonValue : JsonValue → List Char
  | .number n => Number.decimalText n
  | .string text => jsonString text.toList
  | .bool b => jsonBool b

def jsonMember (member : String × JsonValue) : List Char :=
  jsonString member.1.toList ++ ':' :: jsonValue member.2

/-- Members between braces, with commas between them. -/
def jsonObject (members : List (String × JsonValue)) : List Char :=
  '{' :: (List.intercalate [','] (members.map jsonMember) ++ ['}'])

/-! ## Passing over a value -/

inductive Container where
  | array
  | object
  deriving DecidableEq, Repr

/-- What can come next inside a value. -/
inductive Expecting where
  /-- A value. -/
  | value
  /-- A value or the end of an array that has just been opened. -/
  | firstItem
  /-- A key. -/
  | key
  /-- A key or the end of an object that has just been opened. -/
  | firstKey
  /-- The colon after a key. -/
  | colon
  /-- What follows a value in the innermost container. -/
  | separator
  deriving DecidableEq, Repr

/-- Passes over the rest of a value, inside the given open containers, the innermost first. Gives what
follows the value. -/
def skip : Expecting → List Container → List Token → Option (List Token)
  | .separator, [], rest => some rest
  | _, _, [] => none
  | .separator, .array :: outer, token :: rest =>
    match token with
    | .comma => skip .value (.array :: outer) rest
    | .closeBracket => skip .separator outer rest
    | _ => none
  | .separator, .object :: outer, token :: rest =>
    match token with
    | .comma => skip .key (.object :: outer) rest
    | .closeBrace => skip .separator outer rest
    | _ => none
  | .colon, containers, .colon :: rest => skip .value containers rest
  | .colon, _, _ => none
  | .key, containers, .string _ :: rest => skip .colon containers rest
  | .key, _, _ => none
  | .firstKey, containers, .string _ :: rest => skip .colon containers rest
  | .firstKey, _ :: outer, .closeBrace :: rest => skip .separator outer rest
  | .firstKey, _, _ => none
  | .firstItem, _ :: outer, .closeBracket :: rest => skip .separator outer rest
  | _, containers, token :: rest =>
    match token with
    | .openBracket => skip .firstItem (.array :: containers) rest
    | .openBrace => skip .firstKey (.object :: containers) rest
    | .null | .bool _ | .number _ | .string _ => skip .separator containers rest
    | _ => none

def skipValue (tokens : List Token) : Option (List Token) :=
  skip .value [] tokens

theorem skip_length_le {expecting : Expecting} {containers : List Container} {tokens rest : List Token}
    (skipped : skip expecting containers tokens = some rest) : rest.length ≤ tokens.length := by
  fun_induction skip expecting containers tokens <;> grind

/-! ## Reading -/

/-- The members found so far. -/
structure Members where
  capacity : Option Nat := none
  marker : Option String := none
  unbind : Option Bool := none
  deriving DecidableEq, Repr

namespace Members

/-- The settings with these members, and defaults for the others. -/
def settings (m : Members) (default : Settings) : Settings :=
  { capacity := m.capacity.getD default.capacity
    marker := m.marker.getD default.marker
    unbindOnVerify := m.unbind.getD default.unbindOnVerify }

/-- Reads the bound: a number of decimal digits that fits in a word. -/
def readCapacity (m : Members) : List Token → Option (Members × List Token)
  | .number (some n) :: rest =>
    if n < Number.wordSize ∧ m.capacity.isNone then some ({ m with capacity := some n }, rest) else none
  | _ => none

def readMarker (m : Members) : List Token → Option (Members × List Token)
  | .string (some text) :: rest =>
    if m.marker.isNone then some ({ m with marker := some (String.ofList text) }, rest) else none
  | _ => none

def readUnbind (m : Members) : List Token → Option (Members × List Token)
  | .bool b :: rest => if m.unbind.isNone then some ({ m with unbind := some b }, rest) else none
  | _ => none

def readValue (m : Members) (key : List Char) (tokens : List Token) :
    Option (Members × List Token) :=
  if key = Field.capacity.name.toList then m.readCapacity tokens
  else if key = Field.marker.name.toList then m.readMarker tokens
  else if key = Field.unbind.name.toList then m.readUnbind tokens
  else (skipValue tokens).map fun rest => (m, rest)

theorem readCapacity_length_le {m : Members} {tokens : List Token} {found : Members × List Token}
    (read : m.readCapacity tokens = some found) : found.2.length ≤ tokens.length := by
  unfold readCapacity at read
  split at read
  · split at read
    · obtain rfl := Option.some.inj read
      simp
    · simp at read
  · simp at read

theorem readMarker_length_le {m : Members} {tokens : List Token} {found : Members × List Token}
    (read : m.readMarker tokens = some found) : found.2.length ≤ tokens.length := by
  unfold readMarker at read
  split at read
  · split at read
    · obtain rfl := Option.some.inj read
      simp
    · simp at read
  · simp at read

theorem readUnbind_length_le {m : Members} {tokens : List Token} {found : Members × List Token}
    (read : m.readUnbind tokens = some found) : found.2.length ≤ tokens.length := by
  unfold readUnbind at read
  split at read
  · split at read
    · obtain rfl := Option.some.inj read
      simp
    · simp at read
  · simp at read

theorem readValue_length_le {m : Members} {key : List Char} {tokens : List Token}
    {found : Members × List Token} (read : m.readValue key tokens = some found) :
    found.2.length ≤ tokens.length := by
  unfold readValue at read
  split at read
  · exact readCapacity_length_le read
  · split at read
    · exact readMarker_length_le read
    · split at read
      · exact readUnbind_length_le read
      · obtain ⟨rest, skipped, rfl⟩ := Option.map_eq_some_iff.1 read
        exact skip_length_le skipped

/-- Reads members up to the closing brace, starting at a key, and expects nothing after it. -/
def readMembers (m : Members) : List Token → Option Members
  | .string (some key) :: .colon :: tokens =>
    match _read : m.readValue key tokens with
    | some (m', .comma :: rest) => m'.readMembers rest
    | some (m', [.closeBrace]) => some m'
    | _ => none
  | _ => none
termination_by tokens => tokens.length
decreasing_by
  have := readValue_length_le _read
  simp only [List.length_cons] at this ⊢
  omega

/-- Reads what follows an item of an array: its end, with nothing after it, or the next item. -/
def readNext (m : Members) (item : Members → List Token → Option Members) :
    List Token → Option Members
  | [.closeBracket] => some m
  | .comma :: rest => item m rest
  | _ => none

/-- Reads the items of an array up to the closing bracket, starting at the first. -/
def readItems (tokens : List Token) : Option Members := do
  let (m, rest) ← readCapacity {} tokens
  m.readNext (fun m tokens => do
    let (m, rest) ← m.readMarker tokens
    m.readNext (fun m tokens => do
      let (m, rest) ← m.readUnbind tokens
      m.readNext (fun _ _ => none) rest) rest) rest

/-- Reads an object or an array of settings. -/
def read? : List Token → Option Members
  | [.openBrace, .closeBrace] => some {}
  | .openBrace :: rest => readMembers {} rest
  | [.openBracket, .closeBracket] => some {}
  | .openBracket :: rest => readItems rest
  | _ => none

end Members

end MockQueue.Settings

namespace MockQueue

open Settings (Members Token)

/-- The plain codec; a text that cannot be read has no cause but that. -/
def JsonCodec.plain : JsonCodec where
  write members := String.ofList (Settings.jsonObject members)
  read default text :=
    match (Token.tokens? text.toList).bind Members.read? with
    | none => .error "no object of settings"
    | some found => .ok (found.settings default)

end MockQueue

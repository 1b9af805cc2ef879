import MockQueue.Settings.Basic

/-!
# Settings as JSON

Settings are kept in JSON as an object with one member for each field. The texts themselves are the matter
of a library (`JsonCodec`): it writes the members of an object, and fills in a record from the object that a text
holds. What is read is checked before it is used.
-/

namespace MockQueue

inductive JsonValue where
  | number (n : Nat)
  | string (text : String)
  | bool (b : Bool)
  deriving DecidableEq, Repr

namespace Settings

inductive Field where
  | capacity
  | marker
  | unbind
  deriving DecidableEq, Repr

namespace Field

def name : Field → String
  | capacity => "message_capacity"
  | marker => "truncation_marker"
  | unbind => "reset_reporter_on_verify"

def value (s : Settings) : Field → JsonValue
  | capacity => .number s.capacity
  | marker => .string s.marker
  | unbind => .bool s.unbindOnVerify

end Field

def member (s : Settings) (f : Field) : String × JsonValue :=
  (f.name, f.value s)

def members (s : Settings) : List (String × JsonValue) :=
  [.capacity, .marker, .unbind].map s.member

end Settings

/-- A library for JSON. -/
structure JsonCodec where
  /-- The compact text of an object with the given members. -/
  write (members : List (String × JsonValue)) : String
  /-- The record that a text holds, with the defaults for its missing fields, or why it holds none. -/
  read (default : Settings) (text : String) : Except String Settings

namespace Settings

/-- The settings as compact JSON. -/
def toJson (codec : JsonCodec) (s : Settings) : String :=
  codec.write s.members

/-- The settings that a JSON text holds, if it can be read and they are valid. -/
def ofJson (codec : JsonCodec) (text : String) : Except Error Settings :=
  match codec.read {} text with
  | .error cause => .error (.json cause)
  | .ok s =>
    match s.validate with
    | .ok s => .ok s
    | .error p => .error p.error

end Settings

end MockQueue

import MockQueue.Value

/-!
# Payloads

What an expectation carries: a plain value, a value that notes when it is discarded, the conditions of
one stub call, or a cell of foreign memory that the queue holds for its owner. A payload is asked for
by its kind, and only a payload of that kind is given.
-/

namespace MockQueue

/-- A type of the program around: a number that tells it from others, and its name in messages and log
events. -/
structure UserType where
  number : Nat
  name : String
  noZero : '\x00' ∉ name.toList := by decide
  deriving DecidableEq, Repr

structure Stub where
  name : String
  conditions : UserType
  deriving DecidableEq, Repr

/-- A value that an argument is expected to have, unless it is ignored. -/
structure Expected (α : Type) where
  value : α
  ignored : Bool := false
  deriving DecidableEq, Repr

namespace Expected

def ignore {α : Type} (e : Expected α) : Expected α :=
  { e with ignored := true }

/-- Whether an argument is as expected, `same` deciding equality. -/
def accepts {α : Type} (same : α → α → Bool) (e : Expected α) (actual : α) : Bool :=
  e.ignored || same e.value actual

end Expected

/-- What one call of a stub is expected to look like, and what it gives back. -/
structure Conditions where
  fd : Expected Int32
  /-- The bytes behind the data argument; none if they do not matter. -/
  data : Option (List UInt8) := none
  retval : Int32
  deriving DecidableEq, Repr

/-- A cell of foreign memory. -/
structure Cell where
  name : String
  content : Int64 := 0
  deriving DecidableEq, Repr

/-- How a discarded cell is released: given back to the allocator, or handed to a function of its
owner. -/
inductive Release where
  | free
  | owner
  deriving DecidableEq, Repr

/-- A pointer that the queue holds for foreign code; no cell is the null pointer. -/
structure Foreign where
  cell : Option Cell
  release : Option Release
  deriving DecidableEq, Repr

/-- What an expectation carries. -/
inductive Payload where
  | plain (v : Value)
  /-- A value that notes when it is discarded. -/
  | tracked (type : UserType) (id : Int)
  | conditions (stub : Stub) (c : Conditions)
  | foreign (f : Foreign)
  deriving DecidableEq, Repr

/-- The kinds of payloads. -/
inductive Kind where
  | plain (k : ValueKind)
  | tracked (type : UserType)
  | conditions (stub : Stub)
  | foreign
  deriving DecidableEq, Repr

def Kind.typeName : Kind → String
  | plain k => k.typeName
  | tracked type => type.name
  | conditions stub => stub.conditions.name
  | foreign => "mcmock_capi::ForeignPayload"

namespace Payload

def kind : Payload → Kind
  | plain v => .plain v.kind
  | tracked type _ => .tracked type
  | conditions stub _ => .conditions stub
  | foreign _ => .foreign

def typeName (p : Payload) : String :=
  p.kind.typeName

/-- How a payload is described without its value. -/
def description (p : Payload) : String :=
  "Payload \x7b type_name: " ++ String.ofList (Text.quoted p.typeName.toList) ++ ", .. \x7d"

end Payload

end MockQueue

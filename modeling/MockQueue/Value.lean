import MockQueue.Message.Conversion
import MockQueue.Text.Quoted

/-!
# Values

The plain values that an expectation can carry and a check can compare, how they are compared and how
they are shown in a message. Doubles compare as numbers, so a NaN differs from itself.
-/

namespace MockQueue

open Number (Binary64 decimalText signedText shortest)

/-- A plain value. A double is kept by its bits. -/
inductive Value where
  | unit
  | bool (b : Bool)
  | byte (n : UInt8)
  | int32 (n : Int32)
  | int64 (n : Int64)
  | word64 (n : UInt64)
  | double (bits : UInt64)
  | char (c : Char)
  /-- A text that lives as long as the program. -/
  | literal (s : String)
  /-- A text of its own. -/
  | text (s : String)
  | bytes (b : List UInt8)
  | optional (n : Option Int32)
  | texts (l : List String)
  deriving DecidableEq, Repr

inductive ValueKind where
  | unit
  | bool
  | byte
  | int32
  | int64
  | word64
  | double
  | char
  | literal
  | text
  | bytes
  | optional
  | texts
  deriving DecidableEq, Repr

namespace ValueKind

def typeName : ValueKind → String
  | unit => "()"
  | bool => "bool"
  | byte => "u8"
  | int32 => "i32"
  | int64 => "i64"
  | word64 => "u64"
  | double => "f64"
  | char => "char"
  | literal => "&str"
  | text => "alloc::string::String"
  | bytes => "alloc::vec::Vec<u8>"
  | optional => "core::option::Option<i32>"
  | texts => "alloc::vec::Vec<alloc::string::String>"

end ValueKind

namespace Value

def kind : Value → ValueKind
  | unit => .unit
  | bool _ => .bool
  | byte _ => .byte
  | int32 _ => .int32
  | int64 _ => .int64
  | word64 _ => .word64
  | double _ => .double
  | char _ => .char
  | literal _ => .literal
  | text _ => .text
  | bytes _ => .bytes
  | optional _ => .optional
  | texts _ => .texts

/-- Whether two values count as equal: doubles as numbers, all others as they are. -/
def same : Value → Value → Bool
  | double a, double b => (Binary64.ofBits a).same (Binary64.ofBits b)
  | a, b => a == b

/-- A double with the fewest digits, in exponent notation below `1e-4` and from `1e16` on, and with a
decimal place otherwise. -/
def shownDouble : Binary64 → List Char
  | .nan _ => ['N', 'a', 'N']
  | .infinite negative => (if negative then ['-'] else []) ++ ['i', 'n', 'f']
  | .finite negative m e =>
    let digits := shortest m e
    let body :=
      if digits.exponent < -4 ∨ 16 ≤ digits.exponent then digits.exponential
      else
        let plain := digits.positional
        if plain.contains '.' then plain else plain ++ ['.', '0']
    (if negative then ['-'] else []) ++ body

def shownList (items : List (List Char)) : List Char :=
  '[' :: (List.intercalate [',', ' '] items ++ [']'])

def shown : Value → List Char
  | unit => ['(', ')']
  | bool b => (if b then "true" else "false").toList
  | byte n => decimalText n.toNat
  | int32 n => signedText n.toInt
  | int64 n => signedText n.toInt
  | word64 n => decimalText n.toNat
  | double bits => shownDouble (.ofBits bits)
  | char c => Text.quotedChar c
  | literal s => Text.quoted s.toList
  | text s => Text.quoted s.toList
  | bytes b => shownList (b.map fun n => decimalText n.toNat)
  | optional none => "None".toList
  | optional (some n) => "Some(".toList ++ signedText n.toInt ++ [')']
  | texts l => shownList (l.map fun s => Text.quoted s.toList)

end Value

end MockQueue

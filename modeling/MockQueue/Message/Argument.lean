import MockQueue.Number.Binary64

/-!
# Arguments of a template
-/

namespace MockQueue.Message

open Number (Binary64)

inductive Argument where
  | int (value : Int64)
  | uint (value : UInt64)
  | float (value : Binary64)
  | text (value : String)
  | char (value : Char)
  | address (value : UInt64)
  deriving DecidableEq, Repr

end MockQueue.Message

import MockQueue.Message.Directive
import MockQueue.Message.Sink

/-!
# Fields

A converted argument before it is brought to its width: a lead (sign or radix mark), a body, and
whether zeros may stand between the two. Widths count characters.
-/

namespace MockQueue.Message

structure Field where
  lead : List Char := []
  body : List Char
  /-- Whether the zero flag applies. -/
  zeroable : Bool := false
  deriving DecidableEq, Repr

namespace Field

/-- The field without padding. -/
def bare (f : Field) : List Char :=
  f.lead ++ f.body

/-- The field padded to its width: blanks after it under the left flag, else zeros after its lead if
they are asked for and apply, else blanks before it. -/
def pieces (f : Field) (layout : Layout) : List TextPiece :=
  let missing := layout.width - (f.lead.length + f.body.length)
  if layout.flags.left then [.run f.lead, .run f.body, .fill ' ' missing]
  else if layout.flags.zero && f.zeroable then [.run f.lead, .fill '0' missing, .run f.body]
  else [.fill ' ' missing, .run f.lead, .run f.body]

end Field

/-- The sign of a number: a minus below zero, else what the flags ask for, plus before blank. -/
def signText (negative : Bool) (flags : Flags) : List Char :=
  if negative then ['-'] else if flags.plus then ['+'] else if flags.space then [' '] else []

end MockQueue.Message

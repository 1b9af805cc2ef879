import MockQueue.Message.Template

/-!
# The bounded formatter

Every message goes through a formatter, which keeps it within a number of bytes. A message that was
cut ends in the marker. A marker that would not leave room for anything else is shortened.
-/

namespace MockQueue.Message

open Text (byteSize cut)

/-- A message brought within its bound. -/
structure Bounded where
  text : String
  truncated : Bool
  deriving DecidableEq, Repr

/-- A bound on messages and the marker of those that were cut. -/
structure Formatter where
  capacity : Nat
  marker : List Char
  deriving DecidableEq, Repr

namespace Formatter

/-- How many digits past the bound are still computed: no double has more decimals. -/
def precisionSlack : Nat := 1100

/-- The formatter with a bound and a marker; the marker keeps the longest run of first characters
that is shorter than the bound. -/
def make (capacity : Nat) (marker : String) : Formatter where
  capacity := capacity
  marker := cut (capacity - 1) marker.toList

/-- The precision past which a field cannot change the bounded message, kept within what can be
written. -/
def precisionLimit (f : Formatter) : Nat :=
  min (f.capacity + precisionSlack) maxPlaces

def sink (f : Formatter) : Sink :=
  { room := f.capacity }

/-- The message in a sink: if it was cut, as much of it as leaves room for the marker, and the
marker. -/
def finish (f : Formatter) (s : Sink) : Bounded :=
  if s.full then
    { text := String.ofList (cut (f.capacity - byteSize f.marker) s.text.toList ++ f.marker)
      truncated := true }
  else { text := s.text, truncated := false }

/-- The message that a template and its arguments make. A refused request counts only if the message
had not been cut before it. -/
def format (f : Formatter) (template : String) (args : List Argument) :
    Except PlacesRefused Bounded :=
  let rendering := render f.precisionLimit template.toList args
  let filled := f.sink.writeUntilFull rendering.pieces
  match filled.full, rendering.refused with
  | false, some refusal => .error refusal
  | _, _ => .ok (f.finish filled)

/-- The message that a writer makes piece by piece; one that keeps going writes on after a refusal. -/
def compose (f : Formatter) (pieces : List String) (keepGoing : Bool) : Bounded :=
  let runs := pieces.map fun piece => Piece.run piece.toList
  f.finish (if keepGoing then f.sink.writeAll runs else f.sink.writeUntilFull runs)

/-- The message with a given text, marked as cut also if it had been cut elsewhere. -/
def bound (f : Formatter) (text : String) (truncated : Bool) : Bounded :=
  let filled := f.sink.write (.run text.toList)
  f.finish { filled with full := filled.full || truncated }

end Formatter

end MockQueue.Message

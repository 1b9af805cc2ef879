import MockQueue.Message.Piece
import MockQueue.Text.Cut

/-!
# The bounded sink

A sink takes pieces of text until its room is used up. The piece that does not fit is cut between two
characters and makes the sink full; from then on it takes nothing. A writer may stop at the first
refusal or go on writing: what the sink holds is the same.
-/

namespace MockQueue.Message

open Text (byteSize_cons)

abbrev TextPiece := Piece Char

namespace Piece

def byteSize : TextPiece → Nat
  | run text => Text.byteSize text
  | fill c count => count * c.utf8Size

/-- The longest run of first characters of the piece that takes at most `room` bytes. -/
def cut (room : Nat) : TextPiece → List Char
  | run text => Text.cut room text
  | fill c count => List.replicate (min count (room / c.utf8Size)) c

theorem byteSize_eq (p : TextPiece) : p.byteSize = Text.byteSize p.symbols := by
  cases p with
  | run text => rfl
  | fill c count =>
    induction count with
    | zero => simp [byteSize, symbols]
    | succ count ih =>
      simp only [byteSize, symbols] at ih
      simp only [byteSize, symbols, List.replicate_succ, byteSize_cons, ← ih, Nat.succ_mul]
      omega

theorem cut_eq (room : Nat) (p : TextPiece) : p.cut room = Text.cut room p.symbols := by
  cases p with
  | run text => rfl
  | fill c count =>
    have positive := c.utf8Size_pos
    induction count generalizing room with
    | zero => simp [cut, symbols, Text.cut]
    | succ count ih =>
      simp only [cut, symbols] at ih
      simp only [cut, symbols, List.replicate_succ, Text.cut]
      by_cases fits : c.utf8Size ≤ room
      · have quotient : room / c.utf8Size = (room - c.utf8Size) / c.utf8Size + 1 :=
          Nat.div_eq_sub_div positive fits
        rw [if_pos fits, ← ih, quotient, Nat.add_min_add_right, List.replicate_succ]
      · rw [if_neg fits, Nat.div_eq_of_lt (by omega)]
        simp

end Piece

/-- Text written so far, with the bytes that are left. -/
structure Sink where
  room : Nat
  text : String := ""
  /-- Whether a piece has been refused. -/
  full : Bool := false
  deriving DecidableEq, Repr

namespace Sink

/-- Takes the piece if it fits, and what fits of it otherwise. -/
def write (s : Sink) (p : TextPiece) : Sink :=
  if s.full then s
  else if p.byteSize ≤ s.room then
    { room := s.room - p.byteSize, text := s.text ++ String.ofList p.symbols }
  else { room := s.room, text := s.text ++ String.ofList (p.cut s.room), full := true }

/-- Writes the pieces in order up to the first refusal. -/
def writeUntilFull (s : Sink) : List TextPiece → Sink
  | [] => s
  | p :: rest =>
    let next := s.write p
    if next.full then next else next.writeUntilFull rest

/-- Writes all pieces, whatever the sink answers. -/
def writeAll (s : Sink) (pieces : List TextPiece) : Sink :=
  pieces.foldl write s

/-- A full sink takes nothing. -/
theorem write_of_full {s : Sink} (full : s.full = true) (p : TextPiece) : s.write p = s := by
  simp [write, full]

theorem writeAll_of_full {s : Sink} (full : s.full = true) (pieces : List TextPiece) :
    s.writeAll pieces = s := by
  induction pieces with
  | nil => rfl
  | cons p rest ih => simpa only [writeAll, List.foldl_cons, write_of_full full] using ih

/-- To write on after a refusal makes no difference. -/
theorem writeUntilFull_eq_writeAll (s : Sink) (pieces : List TextPiece) :
    s.writeUntilFull pieces = s.writeAll pieces := by
  induction pieces generalizing s with
  | nil => rfl
  | cons p rest ih =>
    by_cases full : (s.write p).full
    · have rest_ignored := writeAll_of_full full rest
      simp only [writeUntilFull, full, if_true]
      exact rest_ignored.symm
    · simp only [writeUntilFull, full, ih, writeAll, List.foldl_cons]
      rfl

end Sink

end MockQueue.Message

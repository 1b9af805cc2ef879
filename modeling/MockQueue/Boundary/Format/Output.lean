import MockQueue.Boundary.Format.Field

/-!
# Output of a format

A format is a row of bytes with requests in it. Its output is made request by request, in order as
long as that goes and by places from then on. Widths, precisions and lengths count bytes, and the
whole output must be shorter than `2 ^ 31` bytes.
-/

namespace MockQueue.Boundary

open Message

inductive Part where
  | literal (c : Char)
  | request (r : Request)
  deriving DecidableEq, Repr

def parts : List Char → List Part
  | [] => []
  | c :: rest =>
    if c = '%' then .request (Request.scan rest).1 :: parts (Request.scan rest).2
    else .literal c :: parts rest
termination_by format => format.length
decreasing_by
  · have := Request.scan_rest_length_le rest
    simp only [List.length_cons]
    omega
  · simp

/-- What all requests say about the kinds of their arguments, `free` being the next free place. -/
def claimsFrom (free : Nat) : List Part → List (Nat × Kind)
  | [] => []
  | .literal _ :: rest => claimsFrom free rest
  | .request r :: rest => r.claims (r.claim free).1 ++ claimsFrom (r.claim free).2 rest

/-- The layout of a request with its amounts. A negative width asks for the left; read in order it
takes the zero flag away, as a written flag for the left always does. A negative precision counts as
omitted. -/
def layoutOf (manner : Manner) (flags : List Char) (width precision : Option Int) : Layout :=
  let written := Flags.ofChars flags
  let negative := width.any (· < 0)
  { flags :=
      { written with
        left := written.left || negative
        zero := written.zero && !written.left && !(negative && manner == .inOrder) }
    width := (width.getD 0).natAbs
    precision := (precision.filter (0 ≤ ·)).map Int.toNat }

/-! ## In order -/

def Amount.takeValue (amount : Amount) (args : Arguments) : Option Int × Arguments :=
  match amount with
  | omitted => (none, args)
  | given n => (some n, args)
  | _ => (some (signedBits 32 (args.take .half).1.value), (args.take .half).2)

/-- The word of a request in order; a request without an argument gets zero. -/
def takeWord (kind : Option Kind) (args : Arguments) : Word × Arguments :=
  match kind with
  | some kind => args.take kind
  | none => (.number 0, args)

/-- What a request does in order, with the arguments that are left. -/
def Request.inOrder (r : Request) (p : Progress) (args : Arguments) :
    Except Halt ((List TextPiece × List Buffer) × Arguments) := do
  let (width, args) := r.width.takeValue args
  let (precision, args) := r.precision.takeValue args
  let (word, args) := takeWord (r.kind? .inOrder) args
  return (← r.pieces p .inOrder (layoutOf .inOrder r.flags width precision) word, args)

/-! ## By places -/

/-- An amount by places; a number that is too large counts as omitted. -/
def Amount.valueAt (amount : Amount) (place : Option Nat) (cells : List Word) : Option Int :=
  match amount, place with
  | given n, _ => if n < amountLimit then some n else none
  | _, some place => some (signedBits 32 (cellAt cells place).value)
  | _, none => none

def Request.byPlace (r : Request) (p : Progress) (places : Places) (cells : List Word) :
    Except Halt (List TextPiece × List Buffer) :=
  let width := r.width.valueAt places.width cells
  let precision := r.precision.valueAt places.precision cells
  let word := (places.value.map (cellAt cells)).getD (.number 0)
  r.pieces p .byPlace (layoutOf .byPlace r.flags width precision) word

/-- The pieces of parts that are read by places, `free` being the next free place. -/
def piecesByPlace (cells : List Word) :
    (free : Nat) → Progress → List Part → Except Halt (List TextPiece)
  | _, _, [] => .ok []
  | free, p, .literal c :: rest => do
    let p ← p.advance [.run [c]] p.memory
    return .run [c] :: (← piecesByPlace cells free p rest)
  | free, p, .request r :: rest => do
    let (pieces, memory) ← r.byPlace p (r.claim free).1 cells
    let p ← p.advance pieces memory
    return pieces ++ (← piecesByPlace cells (r.claim free).2 p rest)

/-! ## Formats -/

/-- What the process has room for when a variadic message is made. -/
structure Room where
  /-- Whether there is memory for the buffer. -/
  buffer : Bool := true
  /-- What keeps the arguments of a format that is read by places from being gathered, if anything does. -/
  places : Option Halt := none
  deriving DecidableEq, Repr

def cellsOf (room : Room) (all : List Part) (args : Arguments) : Except Halt (List Word) :=
  match room.places with
  | some halt => .error halt
  | none => .ok (cells (claimsFrom 0 all) args)

/-- The pieces of parts that are read in order up to the first that has to be read by places. `all`
are the parts of the whole format and `start` its arguments. -/
def piecesInOrder (room : Room) (all : List Part) (start : Arguments) :
    (free : Nat) → Progress → List Part → Arguments → Except Halt (List TextPiece)
  | _, _, [], _ => .ok []
  | free, p, .literal c :: rest, args => do
    let p ← p.advance [.run [c]] p.memory
    return .run [c] :: (← piecesInOrder room all start free p rest args)
  | free, p, .request r :: rest, args =>
    match r.reading with
    | .failed fault => .error (.failed fault)
    | .placed => do piecesByPlace (← cellsOf room all start) free p (.request r :: rest)
    | .served => do
      let ((pieces, memory), args) ← r.inOrder p args
      let p ← p.advance pieces memory
      return pieces ++ (← piecesInOrder room all start (r.claim free).2 p rest args)

def formatBytes (room : Room) (last : Option Fault) (format : Bytes) (args : Arguments) :
    Except Halt (List (Piece UInt8)) := do
  let all := parts (format.map charOfByte)
  let start : Progress := { lastFault := last, memory := args.memory }
  return (← piecesInOrder room all args 0 start all args).map bytePiece

end MockQueue.Boundary

import MockQueue.Boundary.Format.Request

/-!
# Arguments of a format

The arguments of a variadic call come in two rows, words and doubles, and whoever takes one takes the
next of the row for its kind. A word is a number or points to a buffer in memory. Read by places, the
arguments are one row of cells: the cell at a place is of the kind that the last request for it
takes, and where no request asks for a place its cell holds half a word.
-/

namespace MockQueue.Boundary

/-- A row of bytes without a zero in it. -/
abbrev Bytes := List UInt8

/-- Bytes in memory; zeros follow them. -/
abbrev Buffer := List UInt8

/-- The bytes before the first zero. -/
def upToZero (buffer : Buffer) : Bytes :=
  buffer.takeWhile (· != 0)

def overwrite (buffer bytes : Buffer) : Buffer :=
  bytes ++ buffer.drop bytes.length

/-- A number as a row of `count` bytes, the lowest first. -/
def numberBytes (count n : Nat) : Buffer :=
  (List.range count).map fun i => UInt8.ofNat (n / Nat.pow 256 i)

/-! ## Words -/

inductive Word where
  | number (n : UInt64)
  /-- The address of a buffer of the call. -/
  | pointer (buffer : Nat)
  deriving DecidableEq, Repr

def lowBits (bits n : Nat) : Nat :=
  n % Nat.pow 2 bits

def signedBits (bits n : Nat) : Int :=
  Int.bmod n (Nat.pow 2 bits)

namespace Word

/-- The number in a word; the address of a buffer is not known here. -/
def value : Word → Nat
  | number n => n.toNat
  | pointer _ => 0

def double : Word → Number.Binary64
  | number n => .ofBits n
  | pointer _ => .ofBits 0

def half : Word → Word
  | number n => number (UInt64.ofNat (lowBits 32 n.toNat))
  | pointer buffer => pointer buffer

end Word

inductive Target where
  | null
  /-- Memory that may not be touched. -/
  | nowhere
  | buffer (bytes : Buffer)
  deriving DecidableEq, Repr

def Word.target (memory : List Buffer) : Word → Target
  | number n => if n = 0 then .null else .nowhere
  | pointer buffer => .buffer (memory.getD buffer [])

/-- The arguments of a variadic call: doubles by their bits, and the buffers that its words point
to. Who finds a row empty takes a zero. -/
structure Arguments where
  words : List Word := []
  doubles : List UInt64 := []
  memory : List Buffer := []
  deriving DecidableEq, Repr

namespace Arguments

def addWord (args : Arguments) (word : Word) : Arguments :=
  { args with words := args.words ++ [word] }

def addBuffer (args : Arguments) (buffer : Buffer) : Arguments :=
  { args with
    words := args.words ++ [.pointer args.memory.length]
    memory := args.memory ++ [buffer] }

def addDouble (args : Arguments) (bits : UInt64) : Arguments :=
  { args with doubles := args.doubles ++ [bits] }

def take (args : Arguments) : Kind → Word × Arguments
  | .half => ((args.words.headD (.number 0)).half, { args with words := args.words.tail })
  | .word => (args.words.headD (.number 0), { args with words := args.words.tail })
  | .double => (.number (args.doubles.headD 0), { args with doubles := args.doubles.tail })

def takeAll (args : Arguments) : List Kind → List Word
  | [] => []
  | kind :: rest => (args.take kind).1 :: (args.take kind).2.takeAll rest

end Arguments

/-! ## Places -/

/-- The places of the arguments of a request, counted from zero. -/
structure Places where
  width : Option Nat
  precision : Option Nat
  value : Option Nat
  deriving DecidableEq, Repr

/-- The place of an amount that is an argument, and the next place that is free. -/
def Amount.claim : Amount → Nat → Option Nat × Nat
  | omitted, free => (none, free)
  | given _, free => (none, free)
  | nextArgument _, free => (some free, free + 1)
  | argumentAt place, free => (some (place - 1), free)

/-- The place of the argument of a request, and the next place that is free. A written place that is
too large counts as none. -/
def claimValue (place : Option Nat) (kind : Option Kind) (free : Nat) : Option Nat × Nat :=
  match kind, place with
  | none, _ => (none, free)
  | some _, none => (some free, free + 1)
  | some _, some n => if n < amountLimit then (some (n - 1), free) else (some free, free + 1)

/-- The places of a request of which `free` is the next free one, and the next one after it. -/
def Request.claim (r : Request) (free : Nat) : Places × Nat :=
  let width := r.width.claim free
  let precision := r.precision.claim width.2
  let value := claimValue r.place (r.kind? .byPlace) precision.2
  (⟨width.1, precision.1, value.1⟩, value.2)

/-- What a request says about the kinds of its arguments. -/
def Request.claims (r : Request) (places : Places) : List (Nat × Kind) :=
  (places.width.map (·, Kind.half)).toList ++ (places.precision.map (·, Kind.half)).toList
    ++ (places.value.bind fun place => (r.kind? .byPlace).map (place, ·)).toList

/-- The kind of the argument at a place: what the last claim says. -/
def kindAt (claims : List (Nat × Kind)) (place : Nat) : Kind :=
  match claims.reverse.find? (·.1 == place) with
  | some claim => claim.2
  | none => .half

/-- The cells of all places up to the last that is claimed. -/
def cells (claims : List (Nat × Kind)) (args : Arguments) : List Word :=
  let count := claims.foldl (fun count claim => max count (claim.1 + 1)) 0
  args.takeAll ((List.range count).map (kindAt claims))

def cellAt (cells : List Word) (place : Nat) : Word :=
  cells.getD place (.number 0)

end MockQueue.Boundary

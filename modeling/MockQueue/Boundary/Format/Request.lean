import MockQueue.Boundary.Format.Fault
import MockQueue.Message.Conversion

/-!
# Requests of a format

A request is what follows a percent sign in a format: the place of its argument, flags, a width, a
precision, a length and a conversion character. `Request.scan` reads one off the front of a text.

A format is read in order, every request taking the next arguments, up to the first request that
names a place or cannot be served; from there on it is read by places. `Request.reading` says which
of the two a request allows, or why it makes formatting fail.
-/

namespace MockQueue.Boundary

open Message Number

/-- The least number that is too large for a place, a width, a precision or a length. -/
def amountLimit : Nat := Nat.pow 2 31

/-- How a format is read. -/
inductive Manner where
  /-- Every request takes the next arguments. -/
  | inOrder
  /-- Every request has its arguments at places, counted over the whole format. -/
  | byPlace
  deriving DecidableEq, Repr

/-- A width or precision as written. -/
inductive Amount where
  | omitted
  | given (n : Nat)
  /-- Taken from the next argument. A number that is too large may stand where a place would. -/
  | nextArgument (overlong : Bool)
  /-- Taken from the argument at a place, counted from one. -/
  | argumentAt (place : Nat)
  deriving DecidableEq, Repr

inductive Length where
  | plain
  | char
  | short
  | long
  /-- The letters of long doubles; integers are long under them only where a format is read in
  order. -/
  | extended
  deriving DecidableEq, Repr

/-- Whether the length makes integers long and texts wide. -/
def Length.isLong : Length → Manner → Bool
  | long, _ => true
  | extended, manner => manner == .inOrder
  | _, _ => false

def Length.bits (length : Length) (manner : Manner) : Nat :=
  if length.isLong manner then 64
  else if length = short then 16
  else if length = char then 8
  else 32

/-! ## Forms -/

inductive Form where
  | percent
  | signed
  | unsigned (radix : Radix)
  | binary (upper : Bool)
  | float (style : FloatStyle) (upper : Bool)
  | hexFloat (upper : Bool)
  | char
  | wideChar
  | text
  | wideText
  | address
  /-- Stores the length of the output so far. -/
  | count
  /-- Describes the last fault. -/
  | fault
  deriving DecidableEq, Repr

namespace Form

def ofChar? : Char → Option Form
  | '%' => some percent
  | 'd' => some signed
  | 'i' => some signed
  | 'u' => some (unsigned .decimal)
  | 'o' => some (unsigned .octal)
  | 'x' => some (unsigned (.hex false))
  | 'X' => some (unsigned (.hex true))
  | 'b' => some (binary false)
  | 'B' => some (binary true)
  | 'f' => some (float .fixed false)
  | 'F' => some (float .fixed true)
  | 'e' => some (float .exponent false)
  | 'E' => some (float .exponent true)
  | 'g' => some (float .general false)
  | 'G' => some (float .general true)
  | 'a' => some (hexFloat false)
  | 'A' => some (hexFloat true)
  | 'c' => some char
  | 'C' => some wideChar
  | 's' => some text
  | 'S' => some wideText
  | 'p' => some address
  | 'n' => some count
  | 'm' => some fault
  | _ => none

/-- Whether the short length may stand before the form. -/
def takesShort : Form → Bool
  | percent => true
  | signed => true
  | unsigned _ => true
  | binary _ => true
  | count => true
  | _ => false

end Form

inductive Kind where
  /-- The low 32 bits of a word. -/
  | half
  | word
  | double
  deriving DecidableEq, Repr

/-- The kind of argument that a form takes, if it takes one. -/
def Form.kind? (form : Form) (long : Bool) : Option Kind :=
  match form with
  | percent => none
  | fault => none
  | signed => some (if long then .word else .half)
  | unsigned _ => some (if long then .word else .half)
  | binary _ => some (if long then .word else .half)
  | float _ _ => some .double
  | hexFloat _ => some .double
  | char => some .half
  | wideChar => some .half
  | text => some .word
  | wideText => some .word
  | address => some .word
  | count => some .word

/-! ## Reading requests -/

structure Request where
  /-- The place of its argument, counted from one, if one is written. -/
  place : Option Nat
  flags : List Char
  width : Amount
  precision : Amount
  length : Length
  /-- None if the format ends first. -/
  conversion : Option Char
  deriving DecidableEq, Repr

/-- Whether a character is a flag. The last two ask for grouping and local digits, of which there are
none. -/
def isFormatFlag (c : Char) : Bool :=
  isFlag c || c == '\x27' || c == 'I'

def frontNumber (text : List Char) : Nat :=
  valueOf 10 (text.takeWhile Char.isDigit)

/-- Reads a place: a number other than zero and a dollar sign. -/
def scanPlace (text : List Char) : Option Nat × List Char :=
  match text.dropWhile Char.isDigit with
  | '$' :: rest => if frontNumber text = 0 then (none, text) else (some (frontNumber text), rest)
  | _ => (none, text)

/-- Reads where an amount is taken from, after its star. -/
def scanSource (text : List Char) : Amount × List Char :=
  if amountLimit ≤ frontNumber text then (.nextArgument true, text)
  else
    match scanPlace text with
    | (some place, rest) => (.argumentAt place, rest)
    | (none, _) => (.nextArgument false, text)

/-- Reads a width or precision; no digits give `empty`. -/
def scanAmount (empty : Amount) : List Char → Amount × List Char
  | '*' :: rest => scanSource rest
  | text =>
    (if (text.takeWhile Char.isDigit).isEmpty then empty else .given (frontNumber text),
     text.dropWhile Char.isDigit)

/-- Reads a precision, if the text goes on with a point. -/
def scanPoint : List Char → Amount × List Char
  | '.' :: rest => scanAmount (.given 0) rest
  | text => (.omitted, text)

def scanLength : List Char → Length × List Char
  | 'h' :: 'h' :: rest => (.char, rest)
  | 'h' :: rest => (.short, rest)
  | 'l' :: 'l' :: rest => (.long, rest)
  | 'l' :: rest => (.long, rest)
  | 'j' :: rest => (.long, rest)
  | 't' :: rest => (.long, rest)
  | 'z' :: rest => (.long, rest)
  | 'Z' :: rest => (.long, rest)
  | 'L' :: rest => (.extended, rest)
  | 'q' :: rest => (.extended, rest)
  | text => (.plain, text)

/-- Reads a request from the text after its percent sign, and gives the text after it. -/
def Request.scan (text : List Char) : Request × List Char :=
  let place := scanPlace text
  let width := scanAmount .omitted (place.2.dropWhile isFormatFlag)
  let precision := scanPoint width.2
  let length := scanLength precision.2
  ({ place := place.1
     flags := place.2.takeWhile isFormatFlag
     width := width.1
     precision := precision.1
     length := length.1
     conversion := length.2.head? },
   length.2.tail)

theorem scanPlace_length_le (text : List Char) : (scanPlace text).2.length ≤ text.length := by
  have digits := (List.dropWhile_sublist (l := text) Char.isDigit).length_le
  unfold scanPlace
  split
  · rename_i rest front
    rw [front, List.length_cons] at digits
    split
    · exact Nat.le_refl _
    · exact Nat.le_of_succ_le digits
  · exact Nat.le_refl _

theorem scanSource_length_le (text : List Char) : (scanSource text).2.length ≤ text.length := by
  have place := scanPlace_length_le text
  unfold scanSource
  split
  · exact Nat.le_refl _
  · split
    · rename_i read
      rw [read] at place
      exact place
    · exact Nat.le_refl _

theorem scanAmount_length_le (empty : Amount) (text : List Char) :
    (scanAmount empty text).2.length ≤ text.length := by
  unfold scanAmount
  split
  · rename_i rest
    have source := scanSource_length_le rest
    simp only [List.length_cons]
    omega
  · exact (List.dropWhile_sublist (l := text) Char.isDigit).length_le

theorem scanPoint_length_le (text : List Char) : (scanPoint text).2.length ≤ text.length := by
  unfold scanPoint
  split
  · rename_i rest
    have amount := scanAmount_length_le (.given 0) rest
    simp only [List.length_cons]
    omega
  · exact Nat.le_refl _

theorem scanLength_length_le (text : List Char) : (scanLength text).2.length ≤ text.length := by
  unfold scanLength
  split <;> simp only [List.length_cons] <;> omega

/-- A request never lengthens the text that follows it. -/
theorem Request.scan_rest_length_le (text : List Char) :
    (Request.scan text).2.length ≤ text.length := by
  have place := scanPlace_length_le text
  have flags := (List.dropWhile_sublist (l := (scanPlace text).2) isFormatFlag).length_le
  have width := scanAmount_length_le .omitted ((scanPlace text).2.dropWhile isFormatFlag)
  have precision :=
    scanPoint_length_le (scanAmount .omitted ((scanPlace text).2.dropWhile isFormatFlag)).2
  have length := scanLength_length_le
    (scanPoint (scanAmount .omitted ((scanPlace text).2.dropWhile isFormatFlag)).2).2
  simp only [Request.scan, List.length_tail]
  omega

/-! ## What a request allows -/

/-- What becomes of a request where a format is read in order. -/
inductive Reading where
  /-- It is served in order. -/
  | served
  /-- It is read by places, and so is the rest of the format. -/
  | placed
  | failed (fault : Fault)
  deriving DecidableEq, Repr

/-- The first of two readings that is not served decides. -/
def Reading.andThen : Reading → Reading → Reading
  | served, second => second
  | first, _ => first

/-- A place is never served in order. -/
def placeReading : Option Nat → Reading
  | none => .served
  | some place => if place < amountLimit then .placed else .failed .tooLarge

/-- A number has to be small enough, and a place is never served in order. -/
def Amount.reading : Amount → Reading
  | omitted => .served
  | given n => if n < amountLimit then .served else .failed .tooLarge
  | nextArgument overlong => if overlong then .failed .tooLarge else .served
  | argumentAt _ => .placed

namespace Request

/-- The form that the request asks for, if it is a known one. -/
def form? (r : Request) : Option Form :=
  r.conversion.bind Form.ofChar?

/-- The conversion has to be there, known, and fit to the length. -/
def conversionReading (r : Request) : Reading :=
  if r.conversion.isNone then .failed .incomplete
  else
    match r.form? with
    | none => .placed
    | some form => if r.length = .short ∧ form.takesShort = false then .placed else .served

/-- What becomes of the request, its parts being looked at from left to right. -/
def reading (r : Request) : Reading :=
  (placeReading r.place).andThen <| r.width.reading.andThen <| r.precision.reading.andThen
    r.conversionReading

/-- The kind of argument that the request takes, if it takes one. -/
def kind? (r : Request) (manner : Manner) : Option Kind :=
  r.form?.bind (·.kind? (r.length.isLong manner))

end Request

end MockQueue.Boundary

import MockQueue.Boundary.Format.Argument
import MockQueue.Number.Hexadecimal

/-!
# Fields of a format

How an argument becomes a field of bytes under each form. A byte is handled as the character of the
same number. Long rows of zeros are pieces of their own, so that a large precision costs nothing.
-/

namespace MockQueue.Boundary

open Message Number

def charOfByte (b : UInt8) : Char :=
  Char.ofNat b.toNat

def byteOfChar (c : Char) : UInt8 :=
  UInt8.ofNat c.toNat

def bytePiece : TextPiece → Piece UInt8
  | .run text => .run (text.map byteOfChar)
  | .fill c count => .fill (byteOfChar c) count

/-! ## Padding -/

/-- What the zero flag does to a field. -/
inductive Padding where
  /-- Nothing. -/
  | blanks
  /-- Zeros fill the field after its lead. -/
  | zerosBefore
  /-- Zeros fill the field after its lead, or after its end if it stands on the left. -/
  | zerosAround
  /-- Zeros fill the field after its lead; on the left nothing does. -/
  | zerosOrNothing
  deriving DecidableEq, Repr

/-- A converted argument: a lead (sign or radix mark), zeros, a body, zeros again, and an end. -/
structure FormatField where
  lead : List Char := []
  zeros : Nat := 0
  body : List Char
  moreZeros : Nat := 0
  ending : List Char := []
  padding : Padding := .blanks
  deriving DecidableEq, Repr

namespace FormatField

/-- How many bytes the field has without padding. -/
def size (f : FormatField) : Nat :=
  f.lead.length + f.zeros + f.body.length + f.moreZeros + f.ending.length

def afterLead (f : FormatField) : List TextPiece :=
  [.fill '0' f.zeros, .run f.body, .fill '0' f.moreZeros, .run f.ending]

/-- How many bytes the field lacks. The one negative width without a positive counterpart leaves an
empty field empty. -/
def missing (f : FormatField) (width : Nat) : Nat :=
  if f.size = 0 ∧ width = amountLimit then 0 else width - f.size

/-- What fills a field on the left up to its width. -/
def filling (f : FormatField) (zero : Bool) (missing : Nat) : TextPiece :=
  match f.padding with
  | .zerosAround => .fill (if zero then '0' else ' ') missing
  | .zerosOrNothing => .fill ' ' (if zero then 0 else missing)
  | _ => .fill ' ' missing

def pieces (f : FormatField) (layout : Layout) : List TextPiece :=
  let missing := f.missing layout.width
  if layout.flags.left then .run f.lead :: f.afterLead ++ [f.filling layout.flags.zero missing]
  else if layout.flags.zero ∧ f.padding ≠ .blanks then
    .run f.lead :: .fill '0' missing :: f.afterLead
  else .fill ' ' missing :: .run f.lead :: f.afterLead

end FormatField

/-! ## Integers -/

/-- The field of a row of digits: zeros in front up to the precision, and none from the flag if there
is one. -/
def digitsField (layout : Layout) (lead digits : List Char) : FormatField :=
  { lead
    zeros := layout.precision.getD 0 - digits.length
    body := digits
    padding := if layout.precision.isNone then .zerosBefore else .blanks }

/-- The digits of an integer: none for zero at precision zero. -/
def formatDigits (layout : Layout) (digits : List Char) (value : Nat) : List Char :=
  if value = 0 ∧ layout.precision = some 0 then [] else digits

def formatSigned (layout : Layout) (value : Int) : FormatField :=
  digitsField layout (signText (value < 0) layout.flags)
    (formatDigits layout (decimalText value.natAbs) value.natAbs)

/-- The field of an unsigned integer. The alternate form of an octal number starts with a zero. -/
def formatUnsigned (layout : Layout) (radix : Radix) (value : Nat) : FormatField :=
  let digits := formatDigits layout (radix.digits value) value
  let field := digitsField layout (radixMark radix layout.flags value) digits
  if field.zeros = 0 then { field with body := octalMark radix layout.flags digits } else field

def formatBinary (layout : Layout) (upper : Bool) (value : Nat) : FormatField :=
  let mark := if layout.flags.alternate && value != 0 then ['0', if upper then 'B' else 'b'] else []
  digitsField layout mark (formatDigits layout (Nat.toDigits 2 value) value)

/-- The field of an address: hexadecimal digits after the radix mark, and after a sign if the flags
ask for one. -/
def formatAddress (layout : Layout) (value : Nat) : FormatField :=
  if value = 0 then { body := "(nil)".toList }
  else
    digitsField layout (signText false layout.flags ++ ['0', 'x']) ((Radix.hex false).digits value)

/-! ## Floats -/

/-- The text of a finite float: a mantissa, zeros after it, and an exponent. -/
structure FloatText where
  mantissa : List Char
  zeros : Nat := 0
  exponent : List Char := []
  deriving DecidableEq, Repr

namespace FloatText

/-- The text of a mantissa of which the first `kept` of `places` places are written and the others are
zeros. -/
def extend (mantissa : List Char) (kept places : Nat) (exponent : List Char) : FloatText :=
  { mantissa := if kept = 0 ∧ 0 < places then mantissa ++ ['.'] else mantissa
    zeros := places - kept
    exponent }

def fixed (d : Decimal) (places : Nat) : FloatText :=
  let kept := min places d.places
  extend (d.fixedText kept) kept places []

/-- How many significant digits after the first the number has itself. -/
def ownDigits (d : Decimal) : Nat :=
  (decimalText d.coefficient).length - 1

def scientific (d : Decimal) (places : Nat) : FloatText :=
  let kept := min places (ownDigits d)
  let rounded := d.scientific kept
  extend rounded.mantissaText kept places (exponentText rounded.exponent)

/-- The number with `digits` significant digits in general notation, the zeros at the end included.
In the alternate form a number that only rounding made too large for fixed notation has no zeros. -/
def general (alternate : Bool) (d : Decimal) (digits : Nat) : FloatText :=
  let rounded := d.scientific (min (digits - 1) (ownDigits d))
  if isPlain digits rounded then fixed d (plainPlaces digits rounded)
  else if alternate ∧ rounded.exponent = digits ∧ d.magnitude < rounded.exponent then
    { mantissa := ['1', '.'], exponent := exponentText rounded.exponent }
  else scientific d (digits - 1)

/-- The number `m · 2 ^ e` in hexadecimal notation, with `places` places. -/
def hexadecimal (m : Nat) (e : Int) (places : Nat) : FloatText :=
  let kept := min places hexPlaces
  let exponent := hexExponent m e
  extend (hexMantissa m kept) kept places
    ('p' :: (if exponent < 0 then '-' else '+') :: decimalText exponent.natAbs)

/-- The text without the zeros at the end of its mantissa. -/
def strip (t : FloatText) : FloatText :=
  { t with mantissa := stripMantissa t.mantissa, zeros := 0 }

def withPoint (t : FloatText) : FloatText :=
  if t.mantissa.contains '.' then t else { t with mantissa := t.mantissa ++ ['.'] }

/-- The alternate form always has a point. -/
def inForm (t : FloatText) (alternate : Bool) : FloatText :=
  if alternate then t.withPoint else t

end FloatText

def formatFloatText (style : FloatStyle) (alternate : Bool) (precision : Option Nat) (d : Decimal) :
    FloatText :=
  match style with
  | .fixed => (FloatText.fixed d (placesOf precision)).inForm alternate
  | .exponent => (FloatText.scientific d (placesOf precision)).inForm alternate
  | .general =>
    let text := FloatText.general alternate d (digitsOf precision)
    if alternate then text.withPoint else text.strip

/-- The text of `m · 2 ^ e` in hexadecimal notation; without a precision it has as many places as the
number. -/
def formatHexText (alternate : Bool) (precision : Option Nat) (m : Nat) (e : Int) : FloatText :=
  match precision with
  | some places => (FloatText.hexadecimal m e places).inForm alternate
  | none => (FloatText.hexadecimal m e hexPlaces).strip.inForm alternate

/-- The field of a double, of which `text` writes the finite ones after a mark. Also a NaN shows its
sign. -/
def formatFloat (layout : Layout) (upper : Bool) (mark : List Char) (padding : Padding)
    (text : Nat → Int → FloatText) : Binary64 → FormatField
  | .nan negative =>
    { lead := signText negative layout.flags, body := inCase upper ['n', 'a', 'n'] }
  | .infinite negative =>
    { lead := signText negative layout.flags, body := inCase upper ['i', 'n', 'f'] }
  | .finite negative m e =>
    { lead := signText negative layout.flags ++ inCase upper mark
      body := inCase upper (text m e).mantissa
      moreZeros := (text m e).zeros
      ending := inCase upper (text m e).exponent
      padding }

/-! ## Texts -/

/-- The bytes of a wide character: ASCII has one each and tags have none. -/
def wideBytes (code : Nat) : Except Halt (List Char) :=
  if code < 0x80 then .ok [Char.ofNat code]
  else if 0xE0000 ≤ code ∧ code < 0xE0080 then .ok []
  else .error (.failed .unwritable)

/-- A buffer as wide characters up to a zero, four bytes each, the lowest first. -/
def wideCodes : Buffer → List Nat
  | a :: b :: c :: d :: rest =>
    let code := a.toNat + 0x100 * b.toNat + 0x10000 * c.toNat + 0x1000000 * d.toNat
    if code = 0 then [] else code :: wideCodes rest
  | [a, b, c] => [a.toNat + 0x100 * b.toNat + 0x10000 * c.toNat].filter (· != 0)
  | [a, b] => [a.toNat + 0x100 * b.toNat].filter (· != 0)
  | [a] => [a.toNat].filter (· != 0)
  | [] => []

/-- The bytes of the first wide characters, and the characters that are left: at most `limit` bytes
are written and at most `look` characters looked at. -/
def writeBlock : (look limit : Nat) → List Nat → Except Halt (List Char × List Nat)
  | 0, _, codes => .ok ([], codes)
  | _, 0, codes => .ok ([], codes)
  | _, _, [] => .ok ([], [])
  | look + 1, limit, code :: rest => do
    let written ← wideBytes code
    let (more, left) ← writeBlock look (limit - written.length) rest
    return (written ++ more, left)

def blockSize : Nat := 256

/-- The bytes of wide characters up to a limit, block by block; a block without bytes is the last. -/
def writeBlocks : (blocks limit : Nat) → List Nat → Except Halt (List Char)
  | 0, _, _ => .ok []
  | blocks + 1, limit, codes => do
    let size := min limit blockSize
    let (written, rest) ← writeBlock (size + 1) size codes
    if written.isEmpty then return []
    else return written ++ (← writeBlocks blocks (limit - written.length) rest)

/-- What a text field shows of the null pointer: its name if that fits. -/
def nullText (precision : Option Nat) : List Char :=
  if 6 ≤ precision.getD 6 then "(null)".toList else []

/-- The bytes of a text, of which `read` gives those that the precision allows. Nothing is read if it
allows none. -/
def textAt (precision : Option Nat) (read : Buffer → Except Halt (List Char)) :
    Target → Except Halt (List Char)
  | .null => .ok (nullText precision)
  | .nowhere => if precision = some 0 then .ok [] else .error .crashed
  | .buffer bytes => read bytes

def textBytes (precision : Option Nat) : Target → Except Halt (List Char) :=
  textAt precision fun buffer =>
    let bytes := upToZero buffer
    .ok ((bytes.take (precision.getD bytes.length)).map charOfByte)

def wideTextBytes (precision : Option Nat) : Target → Except Halt (List Char) :=
  textAt precision fun buffer =>
    let codes := wideCodes buffer
    writeBlocks codes.length (precision.getD codes.length) codes

/-- The description of the last fault, cut to its precision; its name in the alternate form. -/
def faultText (layout : Layout) (last : Option Fault) : List Char :=
  let text := if layout.flags.alternate then Fault.symbol last else Fault.description last
  text.toList.take (layout.precision.getD text.length)

/-! ## All forms -/

/-- How far the output of a format has come. -/
structure Progress where
  /-- The last fault before the call. -/
  lastFault : Option Fault
  written : Nat := 0
  memory : List Buffer
  deriving DecidableEq, Repr

namespace Progress

/-- Stores the length of the output so far where a word points to. -/
def store (p : Progress) (bits : Nat) : Word → Except Halt (List Buffer)
  | .number _ => .error .crashed
  | .pointer buffer =>
    .ok (p.memory.set buffer
      (overwrite (p.memory.getD buffer []) (numberBytes (bits / 8) p.written)))

/-- The progress after some pieces. The output has to stay short enough. -/
def advance (p : Progress) (pieces : List TextPiece) (memory : List Buffer) :
    Except Halt Progress :=
  let written := p.written + lengthOf pieces
  if written < amountLimit then .ok { p with written, memory }
  else .error (.failed .tooLarge)

end Progress

/-- The field of a form that takes the given word; none if it writes none. -/
def formField (p : Progress) (layout : Layout) (form : Form) (length : Length) (manner : Manner)
    (word : Word) : Except Halt (Option FormatField) :=
  let wide := length.isLong manner
  let bits := length.bits manner
  match form with
  | .percent => .ok none
  | .count => .ok none
  | .signed => .ok (formatSigned layout (signedBits bits word.value))
  | .unsigned radix => .ok (formatUnsigned layout radix (lowBits bits word.value))
  | .binary upper => .ok (formatBinary layout upper (lowBits bits word.value))
  | .float style upper =>
    let text (m : Nat) (e : Int) : FloatText :=
      formatFloatText style layout.flags.alternate layout.precision (.ofBinary m e)
    .ok (formatFloat layout upper [] .zerosAround text word.double)
  | .hexFloat upper =>
    let text := formatHexText layout.flags.alternate layout.precision
    .ok (formatFloat layout upper ['0', 'x'] .zerosOrNothing text word.double)
  | .char =>
    if wide then do return some { body := ← wideBytes (lowBits 32 word.value) }
    else .ok (some { body := [charOfByte (UInt8.ofNat word.value)] })
  | .wideChar => do return some { body := ← wideBytes (lowBits 32 word.value) }
  | .text =>
    let read := if wide then wideTextBytes else textBytes
    do return some { body := ← read layout.precision (word.target p.memory) }
  | .wideText => do
    return some { body := ← wideTextBytes layout.precision (word.target p.memory) }
  | .address => .ok (formatAddress layout word.value)
  | .fault => .ok (some { body := faultText layout p.lastFault })

/-- A width as it is written out again; the one negative width without a positive counterpart is
written as a word. -/
def widthText (width : Nat) : List Char :=
  if width = 0 then []
  else if width = amountLimit then decimalText (wordSize - amountLimit)
  else decimalText width

/-- A request without a known form, written out again. -/
def unknownText (layout : Layout) (r : Request) : List Char :=
  let mark (on : Bool) (c : Char) : List Char := if on then [c] else []
  let sign := if layout.flags.plus then ['+'] else mark layout.flags.space ' '
  let precision :=
    match layout.precision with
    | some p => '.' :: decimalText p
    | none => []
  '%' :: (mark layout.flags.alternate '#' ++ mark (r.flags.contains '\x27') '\x27' ++ sign
    ++ mark layout.flags.left '-' ++ mark layout.flags.zero '0' ++ mark (r.flags.contains 'I') 'I'
    ++ widthText layout.width ++ precision ++ r.conversion.toList)

def Request.pieces (r : Request) (p : Progress) (manner : Manner) (layout : Layout) (word : Word) :
    Except Halt (List TextPiece × List Buffer) := do
  match r.form? with
  | none => return ([.run (unknownText layout r)], p.memory)
  | some .percent => return ([.run ['%']], p.memory)
  | some .count => return ([], ← p.store (r.length.bits manner) word)
  | some form =>
    match ← formField p layout form r.length manner word with
    | none => return ([], p.memory)
    | some field => return (field.pieces layout, p.memory)

end MockQueue.Boundary

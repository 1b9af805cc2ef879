import MockQueue.Message.Argument
import MockQueue.Message.Field
import MockQueue.Number.Decimal
import MockQueue.Number.Shortest

/-!
# Conversions

How an argument of any kind becomes a field under each conversion. Integer conversions take the
argument's 64 bits as signed or unsigned; float conversions round its exact value once; text
conversions cut it to a number of characters.

Writing a float takes at most `maxPlaces` places: a request for more is refused. Only general
notation can make one, when leading zeros of a small number come on top of the digits asked for.
-/

namespace MockQueue.Message

open Number

/-- The largest number of places or significant digits after the first that can be written. -/
def maxPlaces : Nat := 65535

/-- A request for more places than can be written. -/
structure PlacesRefused where
  asked : Nat
  deriving DecidableEq, Repr

inductive FloatStyle where
  | fixed
  | exponent
  | general
  deriving DecidableEq, Repr

inductive Conversion where
  | signed
  | unsigned (radix : Radix)
  | char
  | text
  | float (style : FloatStyle) (upper : Bool)
  | address
  deriving DecidableEq, Repr

def Conversion.ofChar? : Char → Option Conversion
  | 'd' => some .signed
  | 'i' => some .signed
  | 'u' => some (.unsigned .decimal)
  | 'x' => some (.unsigned (.hex false))
  | 'X' => some (.unsigned (.hex true))
  | 'o' => some (.unsigned .octal)
  | 'c' => some .char
  | 's' => some .text
  | 'f' => some (.float .fixed false)
  | 'F' => some (.float .fixed true)
  | 'e' => some (.float .exponent false)
  | 'E' => some (.float .exponent true)
  | 'g' => some (.float .general false)
  | 'G' => some (.float .general true)
  | 'p' => some .address
  | _ => none

/-! ## Integers -/

/-- The digits of an integer field: none for zero at precision zero, and zeros in front up to the
precision. -/
def integerDigits (radix : Radix) (value : Nat) (precision : Option Nat) : List Char :=
  if value = 0 ∧ precision = some 0 then []
  else
    let digits := radix.digits value
    List.replicate (precision.getD 0 - digits.length) '0' ++ digits

def signedField (layout : Layout) (value : Int) : Field where
  lead := signText (value < 0) layout.flags
  body := integerDigits .decimal value.natAbs layout.precision
  zeroable := layout.precision.isNone

/-- The mark of a radix in the alternate form of a number other than zero. -/
def radixMark (radix : Radix) (flags : Flags) (value : Nat) : List Char :=
  match radix with
  | .hex upper => if flags.alternate && value != 0 then ['0', if upper then 'X' else 'x'] else []
  | _ => []

/-- The alternate form of an octal number starts with a zero. -/
def octalMark (radix : Radix) (flags : Flags) (digits : List Char) : List Char :=
  if radix = .octal ∧ flags.alternate = true ∧ digits.head? ≠ some '0' then '0' :: digits else digits

def unsignedField (layout : Layout) (radix : Radix) (value : Nat) : Field where
  lead := radixMark radix layout.flags value
  body := octalMark radix layout.flags (integerDigits radix value layout.precision)
  zeroable := layout.precision.isNone

/-- The argument as a signed 64-bit integer; none for a text. -/
def Argument.toSigned? : Argument → Option Int
  | int v => some v.toInt
  | uint v => some v.toInt64.toInt
  | float v => some (v.truncate Int64.minValue.toInt Int64.maxValue.toInt)
  | char c => some c.toNat
  | address a => some a.toInt64.toInt
  | text _ => none

/-- The argument as an unsigned 64-bit integer; none for a text. -/
def Argument.toUnsigned? : Argument → Option Nat
  | int v => some v.toUInt64.toNat
  | uint v => some v.toNat
  | float v => some (v.truncate 0 wordMax).toNat
  | char c => some c.toNat
  | address a => some a.toNat
  | text _ => none

/-- The text of an argument that has no integer value; empty for one that has. -/
def Argument.plainText : Argument → List Char
  | text s => s.toList
  | _ => []

/-! ## Floats -/

/-- The exponent of a float: its sign and at least two digits. -/
def exponentText (exponent : Int) : List Char :=
  let digits := decimalText exponent.natAbs
  'e' :: (if exponent < 0 then '-' else '+') :: (List.replicate (2 - digits.length) '0' ++ digits)

/-- Exponent notation of a rounded number. -/
def exponentBody (s : Decimal.Scientific) : List Char :=
  s.mantissaText ++ exponentText s.exponent

/-- A mantissa without the zeros at the end of its decimals, and without the point if none is left. -/
def stripMantissa (mantissa : List Char) : List Char :=
  if mantissa.contains '.' then
    ((mantissa.reverse.dropWhile (· == '0')).dropWhile (· == '.')).reverse
  else mantissa

/-- A body without the zeros at the end of its decimals; its exponent stays. -/
def stripZeros (body : List Char) : List Char :=
  stripMantissa (body.takeWhile (· != 'e')) ++ body.dropWhile (· != 'e')

/-- Whether general notation with `digits` significant digits writes a number without an exponent:
its exponent lies from -4 up to the number of digits. -/
def isPlain (digits : Nat) (rounded : Decimal.Scientific) : Prop :=
  -4 ≤ rounded.exponent ∧ rounded.exponent < digits

instance (digits : Nat) (rounded : Decimal.Scientific) : Decidable (isPlain digits rounded) :=
  inferInstanceAs (Decidable (_ ∧ _))

/-- How many decimal places `digits` significant digits of a number reach to. -/
def plainPlaces (digits : Nat) (rounded : Decimal.Scientific) : Nat :=
  ((digits : Int) - 1 - rounded.exponent).toNat

/-- General notation with `digits` significant digits, the zeros at the end included. -/
def generalBody (d : Decimal) (digits : Nat) : List Char :=
  let rounded := d.scientific (digits - 1)
  if isPlain digits rounded then d.fixedText (plainPlaces digits rounded) else exponentBody rounded

/-- The number of places that a precision asks for; six if there is none. -/
def placesOf (precision : Option Nat) : Nat :=
  precision.getD 6

/-- The number of significant digits that a precision asks for in general notation. -/
def digitsOf (precision : Option Nat) : Nat :=
  max (placesOf precision) 1

/-- The body of a number in a notation. The alternate form keeps the point of fixed notation and the
zeros of general notation. -/
def floatBody (style : FloatStyle) (alternate : Bool) (precision : Option Nat) (d : Decimal) :
    List Char :=
  let places := placesOf precision
  match style with
  | .fixed => if alternate ∧ places = 0 then d.fixedText places ++ ['.'] else d.fixedText places
  | .exponent => exponentBody (d.scientific places)
  | .general =>
    let body := generalBody d (digitsOf precision)
    if alternate then body else stripZeros body

/-- The largest number of places that has to be written for a body. In general notation the leading
zeros of a small number come on top of its digits. -/
def placesAsked (style : FloatStyle) (precision : Option Nat) (d : Decimal) : Nat :=
  match style with
  | .fixed => placesOf precision
  | .exponent => placesOf precision
  | .general =>
    let digits := digitsOf precision
    let rounded := d.scientific (digits - 1)
    if isPlain digits rounded then max (digits - 1) (plainPlaces digits rounded) else digits - 1

def inCase (upper : Bool) (text : List Char) : List Char :=
  if upper then text.map Char.toUpper else text

/-- The field of a float; zeros do not pad what is no number. -/
def floatField (layout : Layout) (style : FloatStyle) (upper : Bool) (value : Binary64) : Field :=
  let lead := signText value.isNegative layout.flags
  match value with
  | .nan _ => { lead, body := inCase upper ['n', 'a', 'n'] }
  | .infinite _ => { lead, body := inCase upper ['i', 'n', 'f'] }
  | .finite _ m e =>
    { lead
      body := inCase upper
        (floatBody style layout.flags.alternate layout.precision (.ofBinary m e))
      zeroable := true }

/-- The argument as a double; what is no number gives a NaN. -/
def Argument.toFloat : Argument → Binary64
  | float v => v
  | int v => .ofInt v.toInt
  | uint v => .ofInt v.toNat
  | _ => .nan false

/-! ## Texts -/

/-- The character with a code point, or a question mark if there is none. -/
def charOfCode (code : Nat) : Char :=
  if code.isValidChar then Char.ofNat code else '?'

/-- The argument as at most one character; integers give the character of their low 32 bits. -/
def Argument.firstChar : Argument → List Char
  | char c => [c]
  | int v => [charOfCode (v.toUInt64.toNat % 0x100000000)]
  | uint v => [charOfCode (v.toNat % 0x100000000)]
  | text s => s.toList.take 1
  | _ => ['?']

/-- The shortest text of a float without an exponent. -/
def plainFloat : Binary64 → List Char
  | .nan _ => ['N', 'a', 'N']
  | .infinite negative => (if negative then ['-'] else []) ++ ['i', 'n', 'f']
  | .finite negative m e => (if negative then ['-'] else []) ++ (shortest m e).positional

def Argument.toText : Argument → List Char
  | text s => s.toList
  | char c => [c]
  | int v => signedText v.toInt
  | uint v => decimalText v.toNat
  | float v => plainFloat v
  | address a => '0' :: 'x' :: (Radix.hex false).digits a.toNat

/-! ## All conversions -/

/-- The field of an integer conversion without a sign; a text is passed through whole. -/
def integerField (layout : Layout) (radix : Radix) (arg : Argument) : Field :=
  match arg.toUnsigned? with
  | some value => unsignedField layout radix value
  | none => { body := arg.plainText }

/-- The field of an argument under a conversion. An address conversion treats all but addresses as
hexadecimal integers. -/
def Conversion.field (conversion : Conversion) (layout : Layout) (arg : Argument) : Field :=
  match conversion with
  | .signed =>
    match arg.toSigned? with
    | some value => signedField layout value
    | none => { body := arg.plainText }
  | .unsigned radix => integerField layout radix arg
  | .char => { body := arg.firstChar }
  | .text =>
    match layout.precision with
    | some limit => { body := arg.toText.take limit }
    | none => { body := arg.toText }
  | .float style upper => floatField layout style upper arg.toFloat
  | .address =>
    match arg with
    | .address a =>
      if a = 0 then { body := ['(', 'n', 'i', 'l', ')'] }
      else { lead := ['0', 'x'], body := (Radix.hex false).digits a.toNat }
    | _ => integerField layout (.hex false) arg

/-- The number of places that a conversion has to write; zero if it writes no float. -/
def Conversion.places (conversion : Conversion) (layout : Layout) (arg : Argument) : Nat :=
  match conversion, arg.toFloat with
  | .float style _, .finite _ m e => placesAsked style layout.precision (.ofBinary m e)
  | _, _ => 0

/-- Refuses a conversion that has more places to write than can be written. -/
def Conversion.refusal? (conversion : Conversion) (layout : Layout) (arg : Argument) :
    Option PlacesRefused :=
  let places := conversion.places layout arg
  if places ≤ maxPlaces then none else some ⟨places⟩

end MockQueue.Message

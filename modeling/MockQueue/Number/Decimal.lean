import MockQueue.Number.Radix
import MockQueue.Number.Rounding

/-!
# Exact decimals

Every finite double is a whole number of some power of a tenth. `Decimal` holds that number exactly;
rounding happens once, when a text asks for fewer places than the number has. `fixedText` writes a
given number of decimal places, `scientific` a given number of significant digits with the power of
ten of the first.
-/

namespace MockQueue.Number

/-- The number `coefficient / 10 ^ places`. -/
structure Decimal where
  coefficient : Nat
  places : Nat
  deriving DecidableEq, Repr

namespace Decimal

/-- The exact decimal of `m · 2 ^ e`: a half is five tenths. -/
def ofBinary (m : Nat) : Int → Decimal
  | .ofNat k => ⟨m * Nat.pow 2 k, 0⟩
  | .negSucc k => ⟨m * Nat.pow 5 (k + 1), k + 1⟩

/-- The number in units of the `p`-th decimal place, rounded if it has more places. -/
def rounded (d : Decimal) (p : Nat) : Nat :=
  if d.places ≤ p then d.coefficient * Nat.pow 10 (p - d.places)
  else roundDiv d.coefficient (Nat.pow 10 (d.places - p))

/-- The digits of the number in units of the `p`-th place. Past the last place of the number itself
they are zeros. -/
def digitsAt (d : Decimal) (p : Nat) : List Char :=
  decimalText (d.rounded (min p d.places)) ++ List.replicate (p - d.places) '0'

/-- Puts the decimal point before the last `p` digits, with zeros in front where digits are missing;
no point if `p` is zero. -/
def pointed (p : Nat) (digits : List Char) : List Char :=
  let row := List.replicate (p + 1 - digits.length) '0' ++ digits
  if p = 0 then row else row.take (row.length - p) ++ '.' :: row.drop (row.length - p)

def fixedText (d : Decimal) (p : Nat) : List Char :=
  pointed p (d.digitsAt p)

/-- A row of significant digits and the power of ten of the first of them. -/
structure Scientific where
  digits : List Char
  exponent : Int
  deriving DecidableEq, Repr

/-- The power of ten of the first digit of a number other than zero. -/
def magnitude (d : Decimal) : Int :=
  ((decimalText d.coefficient).length : Int) - 1 - d.places

/-- The number rounded to `p + 1` significant digits. Rounding up a row of nines makes one digit more,
which moves the exponent. -/
def scientific (d : Decimal) (p : Nat) : Scientific :=
  if d.coefficient = 0 then ⟨List.replicate (p + 1) '0', 0⟩
  else
    let digits := decimalText d.coefficient
    if digits.length ≤ p + 1 then
      ⟨digits ++ List.replicate (p + 1 - digits.length) '0', d.magnitude⟩
    else
      let kept := decimalText (roundDiv d.coefficient (Nat.pow 10 (digits.length - (p + 1))))
      if kept.length ≤ p + 1 then ⟨kept, d.magnitude⟩ else ⟨kept.take (p + 1), d.magnitude + 1⟩

end Decimal

namespace Decimal.Scientific

/-- The first digit, then the others after a point; no point if there are none. -/
def mantissaText (s : Scientific) : List Char :=
  match s.digits with
  | [] => []
  | [first] => [first]
  | first :: others => first :: '.' :: others

end Decimal.Scientific

end MockQueue.Number

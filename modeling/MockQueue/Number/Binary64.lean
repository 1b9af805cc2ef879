import MockQueue.Number.Rounding

/-!
# Double precision numbers

A double is read off its 64 bits as a sign, a whole mantissa and a power of two, so that every later
text is computed exactly. Single precision numbers and integers are widened to the double that the
same rule, nearest with ties to even, gives.
-/

namespace MockQueue.Number

/-- A double precision number: `finite s m e` stands for `m · 2 ^ e`, negated if `s` holds. -/
inductive Binary64 where
  | nan (negative : Bool)
  | infinite (negative : Bool)
  | finite (negative : Bool) (mantissa : Nat) (exponent : Int)
  deriving DecidableEq, Repr

namespace Binary64

/-- The exponent of the least positive double and of all that share its spacing. -/
def leastExponent : Int := -1074

/-- Reads the sign bit, the eleven exponent bits and the 52 fraction bits. -/
def ofBits (bits : UInt64) : Binary64 :=
  let n := bits.toNat
  let negative := n / Nat.pow 2 63 % 2 == 1
  let exponent : Nat := n / Nat.pow 2 52 % Nat.pow 2 11
  let fraction := n % Nat.pow 2 52
  if exponent = 2047 then
    if fraction = 0 then infinite negative else nan negative
  else if exponent = 0 then finite negative fraction leastExponent
  else finite negative (Nat.pow 2 52 + fraction) (exponent - 1075)

/-- The double nearest to `n · 2 ^ e`, a tie going to the even mantissa, for a product within the
normal range. -/
def nearest (negative : Bool) (n : Nat) (e : Int) : Binary64 :=
  if n = 0 then finite negative 0 leastExponent
  else
    let length := n.log2 + 1
    if length ≤ 53 then finite negative (n * Nat.pow 2 (53 - length)) (e - (53 - length : Nat))
    else
      let surplus := length - 53
      let mantissa := roundDiv n (Nat.pow 2 surplus)
      if mantissa = Nat.pow 2 53 then finite negative (Nat.pow 2 52) (e + surplus + 1)
      else finite negative mantissa (e + surplus)

/-- The double nearest to a whole number. -/
def ofInt (n : Int) : Binary64 :=
  nearest (n < 0) n.natAbs 0

/-- Reads a single precision number: eight exponent bits and 23 fraction bits. Every finite one is a
double too. -/
def ofSingleBits (bits : UInt32) : Binary64 :=
  let n := bits.toNat
  let negative := n / Nat.pow 2 31 % 2 == 1
  let exponent : Nat := n / Nat.pow 2 23 % Nat.pow 2 8
  let fraction := n % Nat.pow 2 23
  if exponent = 255 then
    if fraction = 0 then infinite negative else nan negative
  else if exponent = 0 then nearest negative fraction (-149)
  else nearest negative (Nat.pow 2 23 + fraction) (exponent - 150)

/-- Whether the number carries a minus sign; a NaN has none. -/
def isNegative : Binary64 → Bool
  | nan _ => false
  | infinite negative => negative
  | finite negative _ _ => negative

/-- The whole part of `m · 2 ^ e`. -/
def wholePart (m : Nat) : Int → Nat
  | .ofNat k => m * Nat.pow 2 k
  | .negSucc k => m / Nat.pow 2 (k + 1)

/-- The number without its fraction, kept within `low` and `high`; a NaN gives zero. -/
def truncate (low high : Int) : Binary64 → Int
  | nan _ => 0
  | infinite negative => if negative then low else high
  | finite negative m e =>
    let whole : Int := wholePart m e
    max low (min high (if negative then -whole else whole))

/-- Equality of numbers: a NaN equals nothing, and the two zeros are equal. -/
def same : Binary64 → Binary64 → Bool
  | nan _, _ => false
  | _, nan _ => false
  | finite s m e, finite s' m' e' => (m == 0 && m' == 0) || (s == s' && m == m' && e == e')
  | x, y => x == y

end Binary64

end MockQueue.Number

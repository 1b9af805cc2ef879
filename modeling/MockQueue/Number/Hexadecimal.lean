import MockQueue.Number.Decimal

/-!
# Hexadecimal notation

A double in hexadecimal notation is a first digit, digits after a point and a power of two. Its 52
fraction bits are thirteen digits, so a double is written exactly with that many places; with fewer
it is rounded once.
-/

namespace MockQueue.Number

/-- How many hexadecimal digits the fraction bits of a double fill. -/
def hexPlaces : Nat := 13

/-- The mantissa `m / 16 ^ hexPlaces` with exactly `p` places. -/
def hexMantissa (m p : Nat) : List Char :=
  let kept := roundDiv m (Nat.pow 16 (hexPlaces - p))
  Decimal.pointed p ((Radix.hex false).digits kept ++ List.replicate (p - hexPlaces) '0')

/-- The power of two of the mantissa of `m · 2 ^ e`; that of zero is zero. -/
def hexExponent (m : Nat) (e : Int) : Int :=
  if m = 0 then 0 else e + 4 * hexPlaces

end MockQueue.Number

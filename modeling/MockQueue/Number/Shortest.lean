import MockQueue.Number.Decimal

/-!
# Shortest digits

The fewest decimal digits that single out a double: the first grid of one, two, three, … significant
digits that has a point among the reals rounding to the number wins; of two such points the nearer,
and of two equally near the larger. `positional` and `exponential` write the digits.
-/

namespace MockQueue.Number

/-- The reals that round to a double, as whole numbers of one common unit. -/
structure RoundingInterval where
  low : Nat
  value : Nat
  high : Nat
  /-- Whether the two ends belong to it. -/
  closed : Bool
  deriving Repr

namespace RoundingInterval

def holds (i : RoundingInterval) (x : Nat) : Bool :=
  if i.closed then decide (i.low ≤ x ∧ x ≤ i.high) else decide (i.low < x ∧ x < i.high)

/-- The point of the grid of multiples of `step` that stands for the interval's number. -/
def gridPoint? (i : RoundingInterval) (step : Nat) : Option Nat :=
  let below := i.value / step * step
  let above := below + step
  let rest := i.value % step
  if rest = 0 then some below
  else
    match i.holds below, i.holds above with
    | true, true => some (if step ≤ 2 * rest then above else below)
    | true, false => some below
    | false, true => some above
    | false, false => none

/-- The point of the coarsest grid that has one, from the grid of `10 ^ k` downwards. -/
def coarsest (i : RoundingInterval) : Nat → Nat
  | 0 => i.value
  | k + 1 =>
    match i.gridPoint? (Nat.pow 10 (k + 1)) with
    | some x => x
    | none => i.coarsest k

end RoundingInterval

/-- A row of digits without its trailing zeros; one digit stays. -/
def dropTrailingZeros (digits : List Char) : List Char :=
  match (digits.reverse.dropWhile (· == '0')).reverse with
  | [] => ['0']
  | kept => kept

/-- The shortest digits of the double `m · 2 ^ e`. The ends of the interval lie half a spacing away,
a quarter below a power of two, where the spacing halves. -/
def shortest (m : Nat) (e : Int) : Decimal.Scientific :=
  if m = 0 then ⟨['0'], 0⟩
  else
    let spread := if m = Nat.pow 2 52 ∧ -1074 < e then 1 else 2
    let low := Decimal.ofBinary (4 * m - spread) (e - 2)
    let value := Decimal.ofBinary (4 * m) (e - 2)
    let high := Decimal.ofBinary (4 * m + 2) (e - 2)
    let interval : RoundingInterval :=
      ⟨low.coefficient, value.coefficient, high.coefficient, m % 2 == 0⟩
    let digits := decimalText (interval.coarsest ((decimalText value.coefficient).length - 1))
    ⟨dropTrailingZeros digits, (digits.length : Int) - 1 - value.places⟩

namespace Decimal.Scientific

/-- The number without an exponent. -/
def positional (s : Scientific) : List Char :=
  match s.exponent with
  | .negSucc k => '0' :: '.' :: (List.replicate k '0' ++ s.digits)
  | .ofNat k =>
    if s.digits.length ≤ k + 1 then s.digits ++ List.replicate (k + 1 - s.digits.length) '0'
    else s.digits.take (k + 1) ++ '.' :: s.digits.drop (k + 1)

def exponential (s : Scientific) : List Char :=
  s.mantissaText ++ 'e' :: signedText s.exponent

end Decimal.Scientific

end MockQueue.Number

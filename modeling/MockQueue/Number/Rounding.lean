/-!
# Rounding a quotient

The one rounding rule that every number text in this library goes through: to the nearest whole
number, a half going to the even neighbour.
-/

namespace MockQueue.Number

/-- The whole number nearest to `num / den`; a quotient half way between two goes to the even one. -/
def roundDiv (num den : Nat) : Nat :=
  let quotient := num / den
  let rest := num % den
  if den < 2 * rest ∨ (2 * rest = den ∧ quotient % 2 = 1) then quotient + 1 else quotient

end MockQueue.Number

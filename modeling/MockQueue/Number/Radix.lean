/-!
# Digits in a radix

Writing a natural number in one of the three radices that integer fields use, and the value that a
row of digits denotes. The writer goes by repeated division, the value by Horner's rule.
-/

namespace MockQueue.Number

/-- How many numbers a 64-bit word can hold. -/
def wordSize : Nat := Nat.pow 2 64

/-- The radices of integer fields, with the letter case of hexadecimal digits. -/
inductive Radix where
  | decimal
  | octal
  | hex (upper : Bool)
  deriving DecidableEq, Repr

namespace Radix

def base : Radix → Nat
  | decimal => 10
  | octal => 8
  | hex _ => 16

theorem one_lt_base (r : Radix) : 1 < r.base := by
  cases r <;> simp [base]

/-- The shortest row of digits that denotes `n`; zero is one digit. -/
def digits (r : Radix) (n : Nat) : List Char :=
  match r with
  | hex true => (Nat.toDigits 16 n).map Char.toUpper
  | r => Nat.toDigits r.base n

end Radix

/-- The value of one digit; letters of either case count from ten. -/
def digitValue (c : Char) : Nat :=
  if '0' ≤ c ∧ c ≤ '9' then c.toNat - '0'.toNat
  else if 'a' ≤ c ∧ c ≤ 'f' then c.toNat - 'a'.toNat + 10
  else if 'A' ≤ c ∧ c ≤ 'F' then c.toNat - 'A'.toNat + 10
  else 0

/-- The number that a row of digits denotes in `base`, the first digit weighing most. -/
def valueOf (base : Nat) (digits : List Char) : Nat :=
  digits.foldl (fun total c => total * base + digitValue c) 0

def decimalText (n : Nat) : List Char :=
  Radix.decimal.digits n

/-- The decimal digits of `n`, after a sign if `n` is below zero. -/
def signedText (n : Int) : List Char :=
  if n < 0 then '-' :: decimalText n.natAbs else decimalText n.natAbs

end MockQueue.Number

import Mathlib.Data.Nat.Log
import MockQueue.Proofs.LongDecimals

/-!
# Rows of digits

The digits that are written for a number come from the alphabet of the radix (`mem_alphabet`), they are as
many as the logarithm says (`length_digits`), and reading them gives the number back (`valueOf_digits`).
Zeros in front of a row change nothing (`valueOf_zeros_append`), zeros after it multiply
(`valueOf_append_zeros`).
-/

namespace MockQueue.Number

namespace Radix

/-- The digits of the radix, in the order of their values. -/
def alphabet : Radix → List Char
  | decimal => ['0', '1', '2', '3', '4', '5', '6', '7', '8', '9']
  | octal => ['0', '1', '2', '3', '4', '5', '6', '7']
  | hex false => ['0', '1', '2', '3', '4', '5', '6', '7', '8', '9', 'a', 'b', 'c', 'd', 'e', 'f']
  | hex true => ['0', '1', '2', '3', '4', '5', '6', '7', '8', '9', 'A', 'B', 'C', 'D', 'E', 'F']

/-- The digit with value `k`. -/
def symbol (r : Radix) (k : Nat) : Char :=
  r.alphabet.getD k '0'

theorem symbol_mem (r : Radix) {k : Nat} (small : k < r.base) : r.symbol k ∈ r.alphabet := by
  have size : k < r.alphabet.length := by
    cases r with
    | decimal | octal => exact small
    | hex upper => cases upper <;> exact small
  have found : r.symbol k = r.alphabet[k] := by simp [symbol, List.getD, size]
  rw [found]
  exact List.getElem_mem size

theorem digitValue_symbol (r : Radix) {k : Nat} (small : k < r.base) : digitValue (r.symbol k) = k := by
  have all : ∀ k < r.base, digitValue (r.symbol k) = k := by
    cases r with
    | decimal | octal => decide
    | hex upper => cases upper <;> decide
  exact all k small

theorem zero_mem_alphabet (r : Radix) : '0' ∈ r.alphabet := by
  cases r with
  | decimal | octal => exact List.mem_cons_self
  | hex upper => cases upper <;> exact List.mem_cons_self

theorem digits_of_lt (r : Radix) {n : Nat} (small : n < r.base) : r.digits n = [r.symbol n] := by
  have all : ∀ n < r.base, r.digits n = [r.symbol n] := by
    cases r with
    | decimal | octal => decide
    | hex upper => cases upper <;> decide
  exact all n small

theorem digits_of_le (r : Radix) {n : Nat} (large : r.base ≤ n) :
    r.digits n = r.digits (n / r.base) ++ [r.symbol (n % r.base)] := by
  have rest : n % r.base < r.base := Nat.mod_lt n (Nat.zero_lt_of_lt r.one_lt_base)
  rw [← r.digits_of_lt rest]
  have split := Nat.toDigits_of_base_le r.one_lt_base large
  rw [← Nat.toDigits_of_lt_base rest] at split
  cases r with
  | decimal | octal => exact split
  | hex upper =>
    cases upper with
    | false => exact split
    | true => exact (congrArg (List.map Char.toUpper) split).trans List.map_append

theorem mem_alphabet (r : Radix) {n : Nat} {c : Char} (member : c ∈ r.digits n) : c ∈ r.alphabet := by
  induction n using Nat.strongRecOn with
  | ind n ih =>
    rcases Nat.lt_or_ge n r.base with small | large
    · rw [r.digits_of_lt small, List.mem_singleton] at member
      rw [member]
      exact r.symbol_mem small
    · have positive : 0 < r.base := Nat.zero_lt_of_lt r.one_lt_base
      rw [r.digits_of_le large, List.mem_append, List.mem_singleton] at member
      rcases member with before | last
      · exact ih _ (Nat.div_lt_self (by omega) r.one_lt_base) before
      · rw [last]
        exact r.symbol_mem (Nat.mod_lt n positive)

theorem length_digits (r : Radix) (n : Nat) : (r.digits n).length = Nat.log r.base n + 1 := by
  induction n using Nat.strongRecOn with
  | ind n ih =>
    rcases Nat.lt_or_ge n r.base with small | large
    · rw [r.digits_of_lt small, Nat.log_of_lt small, List.length_singleton]
    · have positive : 0 < r.base := Nat.zero_lt_of_lt r.one_lt_base
      have fewer := ih (n / r.base) (Nat.div_lt_self (by omega) r.one_lt_base)
      rw [r.digits_of_le large, List.length_append, fewer, List.length_singleton,
        Nat.log_of_one_lt_of_le r.one_lt_base large]

end Radix

/-! ## Reading -/

theorem foldl_digits (base total : Nat) (row : List Char) :
    row.foldl (fun total c => total * base + digitValue c) total = total * base ^ row.length + valueOf base row := by
  induction row generalizing total with
  | nil => simp [valueOf]
  | cons c rest ih =>
    rw [valueOf, List.foldl_cons, List.foldl_cons, ih, ih (0 * base + digitValue c), List.length_cons, Nat.pow_succ']
    simp only [Nat.add_mul, Nat.zero_mul, Nat.mul_assoc, Nat.add_assoc, Nat.zero_add]

theorem valueOf_append (base : Nat) (front back : List Char) :
    valueOf base (front ++ back) = valueOf base front * base ^ back.length + valueOf base back := by
  rw [valueOf, List.foldl_append, foldl_digits, ← valueOf]

theorem valueOf_zeros (base k : Nat) : valueOf base (zeros k) = 0 := by
  induction k with
  | zero => rfl
  | succ k ih =>
    rw [zeros_add, valueOf_append, ih]
    simp [valueOf, zeros, digitValue]

theorem valueOf_zeros_append (base k : Nat) (row : List Char) :
    valueOf base (zeros k ++ row) = valueOf base row := by
  rw [valueOf_append, valueOf_zeros, Nat.zero_mul, Nat.zero_add]

theorem valueOf_append_zeros (base : Nat) (row : List Char) (k : Nat) :
    valueOf base (row ++ zeros k) = valueOf base row * base ^ k := by
  rw [valueOf_append, valueOf_zeros, length_zeros, Nat.add_zero]

theorem valueOf_digits (r : Radix) (n : Nat) : valueOf r.base (r.digits n) = n := by
  induction n using Nat.strongRecOn with
  | ind n ih =>
    rcases Nat.lt_or_ge n r.base with small | large
    · rw [r.digits_of_lt small]
      simp only [valueOf, List.foldl_cons, List.foldl_nil, Nat.zero_mul, Nat.zero_add]
      exact r.digitValue_symbol small
    · have positive : 0 < r.base := Nat.zero_lt_of_lt r.one_lt_base
      have last : valueOf r.base [r.symbol (n % r.base)] = n % r.base := by
        simp only [valueOf, List.foldl_cons, List.foldl_nil, Nat.zero_mul, Nat.zero_add]
        exact r.digitValue_symbol (Nat.mod_lt n positive)
      rw [r.digits_of_le large, valueOf_append, ih _ (Nat.div_lt_self (by omega) r.one_lt_base), last,
        List.length_singleton, Nat.pow_one, Nat.mul_comm, Nat.div_add_mod]

end MockQueue.Number

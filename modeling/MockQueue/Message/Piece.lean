/-!
# Pieces of output

A renderer does not build its whole output: it hands over pieces, and padding is a piece that only
says how often its symbol is repeated. A field of width four thousand million is therefore one small
value, and a bounded reader takes from it what it has room for.

The symbols are characters in messages and bytes in variadic calls.
-/

namespace MockQueue.Message

/-- A run of symbols, written out or as one symbol repeated. -/
inductive Piece (α : Type) where
  | run (symbols : List α)
  | fill (symbol : α) (count : Nat)
  deriving Repr

namespace Piece

variable {α : Type}

def symbols : Piece α → List α
  | run symbols => symbols
  | fill symbol count => List.replicate count symbol

def length : Piece α → Nat
  | run symbols => symbols.length
  | fill _ count => count

@[simp] theorem length_symbols (p : Piece α) : p.symbols.length = p.length := by
  cases p <;> simp [symbols, length]

/-- The first symbols of the piece, at most `limit`. -/
def take (limit : Nat) : Piece α → List α
  | run symbols => symbols.take limit
  | fill symbol count => List.replicate (min limit count) symbol

theorem take_eq_take_symbols (limit : Nat) (p : Piece α) : p.take limit = p.symbols.take limit := by
  cases p <;> simp [take, symbols, List.take_replicate]

end Piece

/-- All symbols of a row of pieces: what a reader without a bound gets. -/
def symbolsOf {α : Type} (pieces : List (Piece α)) : List α :=
  pieces.flatMap Piece.symbols

def lengthOf {α : Type} : List (Piece α) → Nat
  | [] => 0
  | p :: rest => p.length + lengthOf rest

/-- The first symbols of a row of pieces, at most `limit`, without writing out more of a repetition
than is taken. -/
def takeSymbols {α : Type} : (limit : Nat) → List (Piece α) → List α
  | _, [] => []
  | limit, p :: rest =>
    if p.length < limit then p.symbols ++ takeSymbols (limit - p.length) rest else p.take limit

@[simp] theorem length_symbolsOf {α : Type} (pieces : List (Piece α)) :
    (symbolsOf pieces).length = lengthOf pieces := by
  induction pieces with
  | nil => rfl
  | cons p rest ih => simp_all [symbolsOf, lengthOf]

theorem takeSymbols_eq_take {α : Type} (limit : Nat) (pieces : List (Piece α)) :
    takeSymbols limit pieces = (symbolsOf pieces).take limit := by
  induction pieces generalizing limit with
  | nil => simp [takeSymbols, symbolsOf]
  | cons p rest ih =>
    have size := p.length_symbols
    by_cases short : p.length < limit
    · have whole : p.symbols.take limit = p.symbols := List.take_of_length_le (by omega)
      simp only [takeSymbols, short, if_true, ih, symbolsOf, List.flatMap_cons, List.take_append,
        whole, size]
    · have full : limit - p.length = 0 := by omega
      simp [takeSymbols, short, symbolsOf, List.take_append, full, Piece.take_eq_take_symbols]

end MockQueue.Message

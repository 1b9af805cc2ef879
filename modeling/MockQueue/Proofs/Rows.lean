/-!
# Where a row ends

A reader takes characters of a class off the front of a text until one comes that is not of the class. What it
takes is a whole row exactly if the text behind the row does not go on with that class (`Stops`).
-/

namespace MockQueue.Text

/-- The text does not begin with a character of the class. -/
def Stops (p : Char → Bool) (text : List Char) : Prop :=
  ∀ c ∈ text.head?, p c = false

section

variable {p : Char → Bool}

theorem stops_nil : Stops p [] :=
  nofun

theorem stops_cons {c : Char} {rest : List Char} (other : p c = false) : Stops p (c :: rest) := by
  rintro _ ⟨⟩
  exact other

/-- A row without the character is all of the class of others. -/
theorem bne_of_notMem {c : Char} {row : List Char} (none : c ∉ row) : ∀ other ∈ row, (other != c) = true :=
  fun _ member => bne_iff_ne.mpr fun same => none (same ▸ member)

/-- A row that is not of the class hides what comes after it. -/
theorem stops_append {row rest : List Char} (others : ∀ c ∈ row, p c = false) (bare : row = [] → Stops p rest) :
    Stops p (row ++ rest) := by
  cases row with
  | nil => exact bare rfl
  | cons c row => exact stops_cons (others c List.mem_cons_self)

/-- What is left after taking a class does not begin with it. -/
theorem stops_dropWhile (text : List Char) : Stops p (text.dropWhile p) := by
  intro c here
  have stops := List.head?_dropWhile_not p text
  rwa [Option.mem_def.mp here] at stops

variable {row rest : List Char} (ofClass : ∀ c ∈ row, p c = true) (stops : Stops p rest)

include ofClass stops

theorem takeWhile_row : (row ++ rest).takeWhile p = row := by
  rw [List.takeWhile_append_of_pos ofClass]
  cases rest with
  | nil => simp
  | cons c rest => simp [stops c rfl]

theorem dropWhile_row : (row ++ rest).dropWhile p = rest := by
  rw [List.dropWhile_append_of_pos ofClass]
  cases rest with
  | nil => rfl
  | cons c rest => simp [stops c rfl]

end

end MockQueue.Text

/-!
# Cutting text at a number of bytes

Text is measured in bytes of UTF-8 and cut between characters: `cut n` keeps the longest run of first
characters that fits in `n` bytes.
-/

namespace MockQueue.Text

/-- The length of a text in bytes of UTF-8. -/
def byteSize : List Char → Nat
  | [] => 0
  | c :: rest => c.utf8Size + byteSize rest

/-- The longest run of first characters of at most `room` bytes. -/
def cut : (room : Nat) → List Char → List Char
  | _, [] => []
  | room, c :: rest =>
    if c.utf8Size ≤ room then c :: cut (room - c.utf8Size) rest else []

/-- The text from a byte on, at which a character begins. -/
def behind : (bytes : Nat) → List Char → List Char
  | 0, text => text
  | _ + 1, [] => []
  | bytes + 1, c :: rest => behind (bytes + 1 - c.utf8Size) rest

@[simp] theorem byteSize_nil : byteSize [] = 0 := rfl

@[simp] theorem byteSize_cons (c : Char) (text : List Char) :
    byteSize (c :: text) = c.utf8Size + byteSize text := rfl

@[simp] theorem byteSize_append (front back : List Char) :
    byteSize (front ++ back) = byteSize front + byteSize back := by
  induction front with
  | nil => simp
  | cons c rest ih => simp only [List.cons_append, byteSize_cons, ih, Nat.add_assoc]

theorem byteSize_of_ascii {row : List Char} (ascii : ∀ c ∈ row, c.utf8Size = 1) : byteSize row = row.length := by
  induction row with
  | nil => rfl
  | cons c rest ih =>
    obtain ⟨first, others⟩ := List.forall_mem_cons.mp ascii
    rw [byteSize_cons, first, ih others, List.length_cons, Nat.add_comm]

/-- Behind the bytes of a text comes what was appended to it. -/
theorem behind_append (front back : List Char) : behind (byteSize front) (front ++ back) = back := by
  induction front with
  | nil => rw [byteSize_nil, List.nil_append, behind]
  | cons c rest ih =>
    obtain ⟨n, size⟩ : ∃ n, byteSize (c :: rest) = n + 1 :=
      Nat.exists_eq_add_one.mpr (Nat.lt_of_lt_of_le c.utf8Size_pos (Nat.le_add_right _ _))
    rw [size, List.cons_append, behind, ← size, byteSize_cons, Nat.add_sub_cancel_left, ih]

/-- What is kept fits. -/
theorem byteSize_cut_le (room : Nat) (text : List Char) : byteSize (cut room text) ≤ room := by
  induction text generalizing room with
  | nil => simp [cut]
  | cons c rest ih =>
    by_cases fits : c.utf8Size ≤ room
    · have tail := ih (room - c.utf8Size)
      simp only [cut, fits, if_true, byteSize_cons]
      omega
    · simp [cut, fits]

/-- What is kept stands at the front of the text. -/
theorem cut_isPrefix (room : Nat) (text : List Char) : cut room text <+: text := by
  induction text generalizing room with
  | nil => exact List.nil_prefix
  | cons c rest ih =>
    by_cases fits : c.utf8Size ≤ room
    · simpa [cut, fits] using ih (room - c.utf8Size)
    · simp [cut, fits]

/-- A text that fits is kept whole. -/
theorem cut_eq_self {room : Nat} {text : List Char} (fits : byteSize text ≤ room) :
    cut room text = text := by
  induction text generalizing room with
  | nil => rfl
  | cons c rest ih =>
    rw [byteSize_cons] at fits
    have first : c.utf8Size ≤ room := by omega
    have tail : byteSize rest ≤ room - c.utf8Size := by omega
    simp [cut, first, ih tail]

end MockQueue.Text

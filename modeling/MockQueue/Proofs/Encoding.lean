import MockQueue.Proofs.LossyCut

/-!
# Texts as bytes

The bytes of a text in UTF-8 read back as that text (`decode?_encode`). A zero among them can only come from a zero
character (`ZeroFree.encode`), and a text that was read from bytes without a zero has none (`zeroFree_decodeLossy`).
-/

namespace MockQueue.Text

/-- The bytes of a text in UTF-8. -/
def encode (text : List Char) : List UInt8 :=
  text.flatMap String.utf8EncodeChar

/-- No character of the text is the zero character. -/
def ZeroFree (text : List Char) : Prop :=
  '\x00' ∉ text

instance (text : List Char) : Decidable (ZeroFree text) :=
  inferInstanceAs (Decidable (_ ∉ _))

@[simp] theorem encode_cons (c : Char) (text : List Char) :
    encode (c :: text) = String.utf8EncodeChar c ++ encode text := rfl

/-- These are the bytes in which a string is held. -/
theorem encode_toList (s : String) : encode s.toList = s.toByteArray.data.toList := by
  rw [← String.utf8Encode_toList]
  simp [List.utf8Encode, encode]

theorem length_encode (text : List Char) : (encode text).length = byteSize text := by
  induction text with
  | nil => rfl
  | cons c rest ih => rw [encode_cons, List.length_append, String.length_utf8EncodeChar, ih, byteSize_cons]

/-! ## Reading back -/

theorem utf8Tail_follow {n low high : Nat} (bits taken owed : Nat) (rest : List UInt8)
    (inRange : low ≤ n % 64 + 0x80 ∧ n % 64 + 0x80 ≤ high) :
    utf8Tail bits taken low high (owed + 1) (.ofNat (n % 64 + 0x80) :: rest) =
      utf8Tail (bits * 64 + n % 64) (taken + 1) 0x80 0xBF owed rest := by
  have byte : (UInt8.ofNat (n % 64 + 0x80)).toNat = n % 64 + 0x80 := by
    rw [UInt8.toNat_ofNat', Nat.mod_eq_of_lt (by omega)]
  rw [utf8Tail, byte, if_pos inRange]
  have low6 : (n % 64 + 0x80) % 64 = n % 64 := by omega
  rw [low6]

/-- The first byte of a character announces how many follow, and lets the second one pass. -/
structure Utf8Lead.Announces (lead : Utf8Lead) (n owed : Nat) : Prop where
  owes : lead.owed = owed + 1
  bits : lead.bits = n / tailSpan (owed + 1)
  second : lead.low ≤ n / tailSpan owed % 64 + 0x80 ∧ n / tailSpan owed % 64 + 0x80 ≤ lead.high

theorem utf8Lead_two {n : Nat} (least : 0x7F < n) (greatest : n ≤ 0x7FF) :
    ∃ lead, utf8Lead (n / 64 % 0x20 + 0xC0) = some lead ∧ lead.Announces n 0 := by
  refine ⟨{ bits := n / 64, owed := 1 }, ?_, rfl, ?_, ?_⟩
  · have first : n / 64 % 0x20 = n / 64 := Nat.mod_eq_of_lt (by omega)
    rw [first, utf8Lead, if_neg (by omega), if_neg (by omega), if_pos (by omega), Nat.add_sub_cancel]
  · rfl
  · simp only [tailSpan]
    omega

theorem utf8Lead_three {n : Nat} (least : 0x7FF < n) (greatest : n ≤ 0xFFFF) (valid : n < 0xD800 ∨ 0xDFFF < n) :
    ∃ lead, utf8Lead (n / 4096 % 0x10 + 0xE0) = some lead ∧ lead.Announces n 1 := by
  have first : n / 4096 % 0x10 = n / 4096 := Nat.mod_eq_of_lt (by omega)
  rw [first]
  by_cases zero : n / 4096 = 0
  · refine ⟨{ bits := 0, owed := 2, low := 0xA0 }, by rw [zero]; rfl, rfl, zero.symm, ?_⟩
    simp only [tailSpan]
    omega
  by_cases surrogate : n / 4096 = 0xD
  · refine ⟨{ bits := 0xD, owed := 2, high := 0x9F }, by rw [surrogate]; rfl, rfl, surrogate.symm, ?_⟩
    simp only [tailSpan]
    omega
  · refine ⟨{ bits := n / 4096, owed := 2 }, ?_, rfl, rfl, ?_⟩
    · rw [utf8Lead, if_neg (by omega), if_neg (by omega), if_neg (by omega), if_neg (by omega), if_neg (by omega),
        if_pos (by omega), Nat.add_sub_cancel]
    · simp only [tailSpan]
      omega

theorem utf8Lead_four {n : Nat} (least : 0xFFFF < n) (greatest : n < 0x110000) :
    ∃ lead, utf8Lead (n / 262144 % 8 + 0xF0) = some lead ∧ lead.Announces n 2 := by
  have first : n / 262144 % 8 = n / 262144 := Nat.mod_eq_of_lt (by omega)
  rw [first]
  by_cases zero : n / 262144 = 0
  · refine ⟨{ bits := 0, owed := 3, low := 0x90 }, by rw [zero]; rfl, rfl, zero.symm, ?_⟩
    simp only [tailSpan]
    omega
  by_cases last : n / 262144 = 4
  · refine ⟨{ bits := 4, owed := 3, high := 0x8F }, by rw [last]; rfl, rfl, last.symm, ?_⟩
    simp only [tailSpan]
    omega
  · refine ⟨{ bits := n / 262144, owed := 3 }, ?_, rfl, rfl, ?_⟩
    · rw [utf8Lead, if_neg (by omega), if_neg (by omega), if_neg (by omega), if_neg (by omega), if_neg (by omega),
        if_neg (by omega), if_neg (by omega), if_pos (by omega), Nat.add_sub_cancel]
    · simp only [tailSpan]
      omega

theorem utf8Unit_follows {b n owed : Nat} {lead : Utf8Lead} (byte : b < 256) (starts : utf8Lead b = some lead)
    (announces : lead.Announces n owed) (rest : List UInt8) :
    utf8Unit (.ofNat b) (.ofNat (n / tailSpan owed % 64 + 0x80) :: rest) =
      utf8Tail (n / tailSpan owed) 2 0x80 0xBF owed rest := by
  have first : (UInt8.ofNat b).toNat = b := by rw [UInt8.toNat_ofNat', Nat.mod_eq_of_lt byte]
  have whole : n / tailSpan (owed + 1) * 64 + n / tailSpan owed % 64 = n / tailSpan owed := by
    rw [tailSpan, Nat.mul_comm 64, ← Nat.div_div_eq_div_mul, Nat.div_add_mod']
  simp only [utf8Unit, first, starts, announces.owes, utf8Tail_follow _ _ _ _ announces.second, announces.bits, whole]

/-- A character reads back from its bytes, whatever follows them. -/
theorem utf8Unit_encoded (c : Char) (rest : List UInt8) :
    ∃ b following, String.utf8EncodeChar c = b :: following ∧ following.length + 1 = c.utf8Size ∧
      utf8Unit b (following ++ rest) = .scalar c (following.length + 1) := by
  have valid : c.val.toNat < 0xD800 ∨ 0xDFFF < c.val.toNat ∧ c.val.toNat < 0x110000 := c.valid
  have back : Char.ofNat c.val.toNat = c := Char.ofNat_toNat c
  have size := String.length_utf8EncodeChar c
  have follows : ∀ n, 0x80 ≤ n % 64 + 0x80 ∧ n % 64 + 0x80 ≤ 0xBF := by omega
  revert size
  fun_cases String.utf8EncodeChar c with
  | case1 n small =>
    refine fun size => ⟨_, _, rfl, size, ?_⟩
    have byte : (UInt8.ofNat n).toNat = n := by rw [UInt8.toNat_ofNat', Nat.mod_eq_of_lt (by omega)]
    rw [utf8Unit, byte, utf8Lead, if_pos (by omega)]
    exact congrArg (Utf8Unit.scalar · 1) back
  | case2 n large small =>
    refine fun size => ⟨_, _, rfl, size, ?_⟩
    obtain ⟨lead, starts, announces⟩ := utf8Lead_two (by omega) small
    have read := utf8Unit_follows (by omega) starts announces rest
    rw [tailSpan, Nat.div_one] at read
    refine read.trans ?_
    exact congrArg (Utf8Unit.scalar · 2) back
  | case3 n _ large small =>
    refine fun size => ⟨_, _, rfl, size, ?_⟩
    obtain ⟨lead, starts, announces⟩ := utf8Lead_three (by omega) small (by omega)
    have read := utf8Unit_follows (by omega) starts announces (.ofNat (n % 64 + 0x80) :: rest)
    have span : tailSpan 1 = 64 := rfl
    rw [span, utf8Tail_follow _ _ _ _ (follows n), Nat.div_add_mod'] at read
    refine read.trans ?_
    exact congrArg (Utf8Unit.scalar · 3) back
  | case4 n _ _ large =>
    refine fun size => ⟨_, _, rfl, size, ?_⟩
    obtain ⟨lead, starts, announces⟩ := utf8Lead_four (n := n) (by omega) (by omega)
    have read := utf8Unit_follows (by omega) starts announces
      (.ofNat (n / 64 % 64 + 0x80) :: .ofNat (n % 64 + 0x80) :: rest)
    have span : tailSpan 2 = 4096 := rfl
    have places : n / 4096 * 64 + n / 64 % 64 = n / 64 := by omega
    rw [span, utf8Tail_follow _ _ _ _ (follows _), places, utf8Tail_follow _ _ _ _ (follows n), Nat.div_add_mod'] at read
    refine read.trans ?_
    exact congrArg (Utf8Unit.scalar · 4) back

theorem utf8Units_encode (text : List Char) : utf8Units (encode text) = text.map some := by
  induction text with
  | nil => exact utf8Units_nil
  | cons c rest ih =>
    obtain ⟨b, following, bytes, -, read⟩ := utf8Unit_encoded c (encode rest)
    rw [encode_cons, bytes, List.cons_append, utf8Units_cons, read]
    simp only [Utf8Unit.char?, Utf8Unit.size, Nat.add_sub_cancel, List.drop_left, ih, List.map_cons]

/-- The bytes of a text are UTF-8 throughout, and read back as that text. -/
theorem decode?_encode (text : List Char) : decode? (encode text) = some text := by
  rw [decode?, utf8Units_encode]
  induction text with
  | nil => rfl
  | cons c rest ih => simp [ih]

/-! ## Zeros -/

@[simp] theorem zeroFree_nil : ZeroFree [] :=
  List.not_mem_nil

@[simp] theorem zeroFree_append {front back : List Char} :
    ZeroFree (front ++ back) ↔ ZeroFree front ∧ ZeroFree back := by
  simp [ZeroFree]

theorem ZeroFree.of_subset {text part : List Char} (zeroFree : ZeroFree text) (subset : part ⊆ text) :
    ZeroFree part :=
  fun isZero => zeroFree (subset isZero)

theorem zeroFree_replicate {c : Char} (other : c ≠ '\x00') (count : Nat) : ZeroFree (List.replicate count c) :=
  fun isZero => other (List.eq_of_mem_replicate isZero).symm

/-- Only the zero character has a zero among its bytes. -/
theorem eq_zero_of_mem_utf8EncodeChar {c : Char} (isZero : 0 ∈ String.utf8EncodeChar c) : c = '\x00' := by
  have plain : ∀ {n : Nat}, 0 < n → n < 256 → (0 : UInt8) ≠ .ofNat n := by
    intro n positive byte same
    have value := congrArg UInt8.toNat same
    rw [UInt8.toNat_ofNat', Nat.mod_eq_of_lt byte] at value
    exact absurd value.symm (Nat.ne_of_gt positive)
  revert isZero
  fun_cases String.utf8EncodeChar c with
  | case1 n small =>
    intro isZero
    rcases Nat.eq_zero_or_pos n with number | positive
    · exact Char.ext (UInt32.toNat.inj number)
    · exact absurd (List.mem_singleton.mp isZero) (plain positive (by omega))
  | case2 n =>
    intro isZero
    simp only [List.mem_cons, List.not_mem_nil, or_false] at isZero
    rcases isZero with same | same <;> exact absurd same (plain (by omega) (by omega))
  | case3 n =>
    intro isZero
    simp only [List.mem_cons, List.not_mem_nil, or_false] at isZero
    rcases isZero with same | same | same <;> exact absurd same (plain (by omega) (by omega))
  | case4 n =>
    intro isZero
    simp only [List.mem_cons, List.not_mem_nil, or_false] at isZero
    rcases isZero with same | same | same | same <;> exact absurd same (plain (by omega) (by omega))

/-- A text without the zero character has bytes without a zero. -/
theorem ZeroFree.encode {text : List Char} (zeroFree : ZeroFree text) : 0 ∉ encode text := by
  intro isZero
  obtain ⟨c, member, byte⟩ := List.mem_flatMap.mp isZero
  obtain rfl := eq_zero_of_mem_utf8EncodeChar byte
  exact zeroFree member

/-- A unit that shows the zero character is the zero byte. -/
theorem eq_zero_of_utf8Unit {b : UInt8} {rest : List UInt8} {size : Nat}
    (isZero : utf8Unit b rest = .scalar '\x00' size) : b = 0 := by
  obtain rfl : 1 = size := utf8Unit_scalar isZero
  unfold utf8Unit at isZero
  cases starts : utf8Lead b.toNat with
  | none => simp [starts] at isZero
  | some lead =>
    simp only [starts] at isZero
    cases owed : lead.owed with
    | succ owed =>
      -- A unit of more bytes than one would be a longer character.
      rw [owed] at isZero
      obtain ⟨-, low80, highBF⟩ := utf8Lead_bounds starts
      obtain ⟨sized, -⟩ := utf8Tail_scalar low80 highBF isZero
      omega
    | zero =>
      have ascii : b.toNat < 0x80 ∧ lead.bits = b.toNat := by
        rcases utf8Lead_cases starts with
          ⟨small, rfl⟩ | ⟨_, -, -, rfl⟩ | rfl | rfl | ⟨_, -, -, -, rfl⟩ | rfl | ⟨_, -, -, rfl⟩ | rfl
        · exact ⟨small, rfl⟩
        all_goals cases owed
      rw [owed, utf8Tail, ascii.2] at isZero
      have number : b.toNat = 0 := by
        rw [← val_ofNat (.inl (by omega) : b.toNat.isValidChar), (Utf8Unit.scalar.inj isZero).1]
        rfl
      exact UInt8.toNat.inj number

/-- Bytes without a zero read as a text without the zero character. -/
theorem zeroFree_decodeLossy {bytes : List UInt8} (noZero : 0 ∉ bytes) : ZeroFree (decodeLossy bytes) := by
  induction bytes using units_induction with
  | nil => simp [ZeroFree, decodeLossy]
  | cons b rest ih =>
    rw [List.mem_cons, not_or] at noZero
    rw [ZeroFree, decodeLossy_cons, List.mem_cons, not_or]
    refine ⟨fun shown => ?_, ih fun later => noZero.2 (List.mem_of_mem_drop later)⟩
    cases found : utf8Unit b rest with
    | broken size =>
      have replaced : '\x00' = replacement := by rwa [found] at shown
      exact absurd replaced (by decide)
    | scalar c size =>
      rw [found] at shown
      obtain rfl : '\x00' = c := shown
      exact noZero.1 (eq_zero_of_utf8Unit found).symm

end MockQueue.Text

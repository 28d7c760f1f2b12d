import AmigaRemote.Proofs.Text.Utf8Plain

/-! Well-formed UTF-8, as the standard lists its byte sequences. It is what is written for texts, and
nothing else is written back as it was read. -/

namespace AmigaRemote.Utf8

/-- The ranges of the bytes of one character, a row for each form that a character can have. -/
def forms : List (List (Nat × Nat)) :=
  -- No form is longer than its character needs, none makes a surrogate, and none goes beyond the
  -- last code point.
  [[(0x00, 0x7F)],
   [(0xC2, 0xDF), (0x80, 0xBF)],
   [(0xE0, 0xE0), (0xA0, 0xBF), (0x80, 0xBF)],
   [(0xE1, 0xEC), (0x80, 0xBF), (0x80, 0xBF)],
   [(0xED, 0xED), (0x80, 0x9F), (0x80, 0xBF)],
   [(0xEE, 0xEF), (0x80, 0xBF), (0x80, 0xBF)],
   [(0xF0, 0xF0), (0x90, 0xBF), (0x80, 0xBF), (0x80, 0xBF)],
   [(0xF1, 0xF3), (0x80, 0xBF), (0x80, 0xBF), (0x80, 0xBF)],
   [(0xF4, 0xF4), (0x80, 0x8F), (0x80, 0xBF), (0x80, 0xBF)]]

/-- Bytes that have a form: as many as it has ranges, and each within its own. -/
def HasForm : List (Nat × Nat) → Bytes → Prop
  | [], [] => True
  | (least, greatest) :: form, b :: bytes =>
    (least ≤ b.toNat ∧ b.toNat ≤ greatest) ∧ HasForm form bytes
  | _, _ => False

/-- Bytes that are one character. -/
def IsCharacter (bytes : Bytes) : Prop :=
  ∃ form ∈ forms, HasForm form bytes

/-- Bytes that are characters, one after the other. -/
inductive WellFormed : Bytes → Prop where
  | nil : WellFormed []
  | cons {first rest : Bytes} (character : IsCharacter first) (others : WellFormed rest) :
    WellFormed (first ++ rest)

section Lengths

variable {a b c d : UInt8}

/-- One byte is a character if it is plain. -/
theorem isCharacter_one : IsCharacter [a] ↔ a.toNat < 0x80 := by
  -- There are nine forms, each of a fixed length: those of one byte are looked for.
  simp only [IsCharacter, forms, List.mem_cons, List.not_mem_nil, or_false, exists_eq_or_imp,
    exists_eq_left, HasForm]
  grind

/-- Two bytes are a character if the first one cannot be spared. -/
theorem isCharacter_two :
    IsCharacter [a, b] ↔
      (0xC2 ≤ a.toNat ∧ a.toNat ≤ 0xDF) ∧ 0x80 ≤ b.toNat ∧ b.toNat ≤ 0xBF := by
  -- As above, for the forms of two bytes.
  simp only [IsCharacter, forms, List.mem_cons, List.not_mem_nil, or_false, exists_eq_or_imp,
    exists_eq_left, HasForm]
  grind

/-- Three bytes are a character if the second one is in the range that the first one leaves it. -/
theorem isCharacter_three :
    IsCharacter [a, b, c] ↔
      (0xE0 ≤ a.toNat ∧ a.toNat ≤ 0xEF) ∧ (0x80 ≤ b.toNat ∧ b.toNat ≤ 0xBF) ∧
        (0x80 ≤ c.toNat ∧ c.toNat ≤ 0xBF) ∧
        (a.toNat = 0xE0 → 0xA0 ≤ b.toNat) ∧ (a.toNat = 0xED → b.toNat ≤ 0x9F) := by
  -- There are four forms of three bytes, which narrow the second byte in two cases.
  simp only [IsCharacter, forms, List.mem_cons, List.not_mem_nil, or_false, exists_eq_or_imp,
    exists_eq_left, HasForm]
  grind

/-- Four bytes are a character if the second one is in the range that the first one leaves it. -/
theorem isCharacter_four :
    IsCharacter [a, b, c, d] ↔
      (0xF0 ≤ a.toNat ∧ a.toNat ≤ 0xF4) ∧ (0x80 ≤ b.toNat ∧ b.toNat ≤ 0xBF) ∧
        (0x80 ≤ c.toNat ∧ c.toNat ≤ 0xBF) ∧ (0x80 ≤ d.toNat ∧ d.toNat ≤ 0xBF) ∧
        (a.toNat = 0xF0 → 0x90 ≤ b.toNat) ∧ (a.toNat = 0xF4 → b.toNat ≤ 0x8F) := by
  -- There are three forms of four bytes, which narrow it as well.
  simp only [IsCharacter, forms, List.mem_cons, List.not_mem_nil, or_false, exists_eq_or_imp,
    exists_eq_left, HasForm]
  grind

end Lengths

/-- The character of a number is written as some bytes if the number tells which. -/
theorem exists_encodeChar_of_toNat {n : Nat} {bytes : Bytes} (valid : n.isValidChar)
    (written : ∀ c : Char, c.val.toNat = n → String.utf8EncodeChar c = bytes) :
    ∃ c, String.utf8EncodeChar c = bytes :=
  -- A valid number is that of some character.
  ⟨Char.ofNat n, written _ (toNat_ofNat_of_valid valid)⟩

/-- The bytes of a character are what the character is written as. -/
theorem IsCharacter.exists_encodeChar {bytes : Bytes} (character : IsCharacter bytes) :
    ∃ c, String.utf8EncodeChar c = bytes := by
  -- The number of the character is made of the bits that its bytes carry.
  match bytes with
  | [a] =>
    have plain := isCharacter_one.mp character
    refine exists_encodeChar_of_toNat (n := a.toNat) (.inl (by omega)) fun c number => ?_
    unfold String.utf8EncodeChar
    simp only [number]
    rw [if_pos (by omega), UInt8.ofNat_toNat]
  | [a, b] =>
    obtain ⟨first, second⟩ := isCharacter_two.mp character
    refine exists_encodeChar_of_toNat (n := (a.toNat - 0xC0) * 64 + (b.toNat - 0x80))
      (.inl (by omega)) fun c number => ?_
    unfold String.utf8EncodeChar
    simp only [number]
    rw [if_neg (by omega), if_pos (by omega)]
    simp only [List.cons.injEq, ← UInt8.toNat_inj, UInt8.toNat_ofNat', and_true]
    omega
  | [a, b, c] =>
    obtain ⟨first, second, third, longer, surrogate⟩ := isCharacter_three.mp character
    refine exists_encodeChar_of_toNat
      (n := (a.toNat - 0xE0) * 4096 + (b.toNat - 0x80) * 64 + (c.toNat - 0x80)) ?_
      fun c number => ?_
    · unfold Nat.isValidChar
      omega
    unfold String.utf8EncodeChar
    simp only [number]
    rw [if_neg (by omega), if_neg (by omega), if_pos (by omega)]
    simp only [List.cons.injEq, ← UInt8.toNat_inj, UInt8.toNat_ofNat', and_true]
    omega
  | [a, b, c, d] =>
    obtain ⟨first, second, third, fourth, longer, beyond⟩ := isCharacter_four.mp character
    refine exists_encodeChar_of_toNat (n := (a.toNat - 0xF0) * 262144 + (b.toNat - 0x80) * 4096
      + (c.toNat - 0x80) * 64 + (d.toNat - 0x80)) ?_ fun c number => ?_
    · unfold Nat.isValidChar
      omega
    unfold String.utf8EncodeChar
    simp only [number]
    rw [if_neg (by omega), if_neg (by omega), if_neg (by omega)]
    simp only [List.cons.injEq, ← UInt8.toNat_inj, UInt8.toNat_ofNat', and_true]
    omega
  | [] | a :: b :: c :: d :: e :: rest =>
    -- No form has as many ranges.
    simp [IsCharacter, forms, HasForm] at character

/-- What a character is written as is a character. -/
theorem isCharacter_encodeChar (c : Char) : IsCharacter (String.utf8EncodeChar c) := by
  have valid : c.toNat < 0xD800 ∨ 0xDFFF < c.toNat ∧ c.toNat < 0x110000 := c.valid
  have same : c.val.toNat = c.toNat := rfl
  unfold String.utf8EncodeChar
  simp only [same]
  -- The four lengths of a written character are the four ranges of its number.
  split
  · rw [isCharacter_one, UInt8.toNat_ofNat']
    omega
  · split
    · simp only [isCharacter_two, UInt8.toNat_ofNat']
      omega
    · split
      · simp only [isCharacter_three, UInt8.toNat_ofNat']
        omega
      · simp only [isCharacter_four, UInt8.toNat_ofNat']
        omega

/-- What is written for a text is well formed. -/
theorem wellFormed_encode (text : Text) : WellFormed (encode text) := by
  -- By induction on the text, one character being one part.
  induction text with
  | nil => exact .nil
  | cons c text ih => exact .cons (isCharacter_encodeChar c) ih

/-- Well-formed bytes are what some text is written as. -/
theorem WellFormed.exists_encode {bytes : Bytes} (wellFormed : WellFormed bytes) :
    ∃ text, encode text = bytes := by
  -- By induction on the parts: each one is what some character is written as.
  induction wellFormed with
  | nil => exact ⟨[], rfl⟩
  | cons character _ ih =>
    obtain ⟨c, rfl⟩ := character.exists_encodeChar
    obtain ⟨text, rfl⟩ := ih
    exact ⟨c :: text, rfl⟩

/-- Exactly well-formed bytes are written back as they were read. -/
theorem encode_decode {bytes : Bytes} : encode (decode bytes) = bytes ↔ WellFormed bytes := by
  -- One way well-formedness is handed on, the other way the bytes are those of a text.
  constructor
  · intro same
    exact same ▸ wellFormed_encode _
  · intro wellFormed
    obtain ⟨text, rfl⟩ := wellFormed.exists_encode
    rw [decode_encode]

instance (bytes : Bytes) : Decidable (WellFormed bytes) :=
  decidable_of_iff _ encode_decode

/-- A plain character written longer than it has to be is not well formed. -/
example : ¬WellFormed [0xC1, 0x81] := by decide

end AmigaRemote.Utf8

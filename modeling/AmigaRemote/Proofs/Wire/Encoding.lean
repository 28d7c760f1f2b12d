import AmigaRemote.Proofs.Text.Utf8
import AmigaRemote.Wire.Encoding
import AmigaRemote.Wire.Line

/-! Both encodings read back what they wrote, and only line ends are written as line ends. -/

namespace AmigaRemote.Encoding

variable {encoding : Encoding} {text : Text} {bytes : Bytes}

/-- A text has bytes in ISO-8859-1 exactly if each of its characters has one. -/
theorem encode_latin1_eq_ok :
    latin1.encode text = .ok bytes ↔
      (∀ c ∈ text, c.toNat ≤ 0xFF) ∧ bytes = text.map fun c => UInt8.ofNat c.toNat := by
  simp only [encode]
  cases found : text.find? fun c => 0xFF < c.toNat with
  | some c =>
    -- The character that was found is one without a byte.
    have beyond : 0xFF < c.toNat := by simpa using List.find?_some found
    refine ⟨fun encoded => by simp at encoded, fun ⟨within, _⟩ => ?_⟩
    have := within c (List.mem_of_find?_eq_some found)
    omega
  | none =>
    have within : ∀ c ∈ text, c.toNat ≤ 0xFF := by
      intro c member
      simpa using List.find?_eq_none.mp found c member
    simp only [Except.ok.injEq]
    exact ⟨fun same => ⟨within, same.symm⟩, fun same => same.2.symm⟩

/-- Every text has bytes in UTF-8, and in ISO-8859-1 each of the first 256 characters has one. -/
theorem exists_encode_eq_ok :
    (∃ bytes, encoding.encode text = .ok bytes) ↔
      (encoding = .latin1 → ∀ c ∈ text, c.toNat ≤ 0xFF) := by
  -- UTF-8 refuses nothing; ISO-8859-1 looks for a character beyond its range.
  cases encoding with
  | latin1 =>
    simp only [encode_latin1_eq_ok, true_implies]
    exact ⟨fun ⟨_, within, _⟩ => within, fun within => ⟨_, within, rfl⟩⟩
  | utf8 => exact ⟨fun _ => nofun, fun _ => ⟨_, rfl⟩⟩

/-- No character makes no bytes. -/
@[simp] theorem encode_nil : encoding.encode [] = .ok [] := by
  -- There is no character to be refused.
  cases encoding <;> rfl

/-- Parts of a text are written one after the other. -/
theorem encode_append {left right : Text} :
    encoding.encode (left ++ right) = .ok bytes ↔
      ∃ front back, encoding.encode left = .ok front ∧ encoding.encode right = .ok back ∧
        bytes = front ++ back := by
  -- Both encodings go through a text character by character.
  cases encoding with
  | latin1 =>
    simp only [encode_latin1_eq_ok, List.mem_append, List.map_append]
    constructor
    · rintro ⟨within, rfl⟩
      exact ⟨_, _, ⟨fun c member => within c (.inl member), rfl⟩,
        ⟨fun c member => within c (.inr member), rfl⟩, rfl⟩
    · rintro ⟨_, _, ⟨inLeft, rfl⟩, ⟨inRight, rfl⟩, rfl⟩
      exact ⟨fun c member => member.elim (inLeft c) (inRight c), rfl⟩
  | utf8 => simp [encode, Utf8.encode, eq_comm]

/-- The first character is written before the others. -/
theorem encode_cons {c : Char} :
    encoding.encode (c :: text) = .ok bytes ↔
      ∃ front back, encoding.encode [c] = .ok front ∧ encoding.encode text = .ok back ∧
        bytes = front ++ back :=
  -- The first character is a text of its own.
  @encode_append encoding bytes [c] text

/-- A character has at least one byte, and a plain byte stands for itself alone. -/
theorem encode_singleton {c : Char} (encoded : encoding.encode [c] = .ok bytes) :
    bytes ≠ [] ∧ ∀ b ∈ bytes, b.toNat < 0x80 → bytes = [b] ∧ c.toNat = b.toNat := by
  cases encoding with
  | latin1 =>
    -- There is one byte, and it is the number of the character.
    obtain ⟨within, rfl⟩ := encode_latin1_eq_ok.mp encoded
    have small : c.toNat ≤ 0xFF := within c (by simp)
    refine ⟨by simp, ?_⟩
    intro b member _
    have same : b = UInt8.ofNat c.toNat := by simpa using member
    rw [same]
    exact ⟨rfl, (UInt8.toNat_ofNat_of_lt' (by change _ < 256; omega)).symm⟩
  | utf8 =>
    have same : bytes = String.utf8EncodeChar c := by
      simpa [encode, Utf8.encode] using encoded.symm
    subst same
    exact ⟨String.utf8EncodeChar_ne_nil, fun b member plain => Utf8.encodeChar_plain member plain⟩

/-- A plain character is written as the byte of its number, whatever the encoding. -/
theorem encode_singleton_of_plain {c : Char} (plain : c.toNat < 0x80) :
    encoding.encode [c] = .ok [UInt8.ofNat c.toNat] := by
  -- Both encodings write a character below 128 as its own byte.
  cases encoding with
  | latin1 =>
    refine encode_latin1_eq_ok.mpr ⟨fun d member => ?_, rfl⟩
    have same : d = c := by simpa using member
    rw [same]
    omega
  | utf8 => simp [encode, Utf8.encode, Utf8.encodeChar_of_plain plain]

/-- Plain text is written byte for character, whatever the encoding. -/
theorem encode_of_plain (plain : ∀ c ∈ text, c.toNat < 0x80) :
    encoding.encode text = .ok (text.map fun c => UInt8.ofNat c.toNat) := by
  -- Each character adds its byte behind those before it.
  induction text with
  | nil => exact encode_nil
  | cons c text ih =>
    have first := @encode_singleton_of_plain encoding c (plain c (by simp))
    have others := ih fun d member => plain d (by simp [member])
    exact encode_cons.mpr ⟨_, _, first, others, rfl⟩

/-- Plain text in front is written byte for character in front. -/
theorem encode_plain_append {plain : Text} (small : ∀ c ∈ plain, c.toNat < 0x80) :
    encoding.encode (plain ++ text) = .ok bytes ↔
      ∃ back, encoding.encode text = .ok back ∧
        bytes = (plain.map fun c => UInt8.ofNat c.toNat) ++ back := by
  -- The plain part is known, so that only the rest is open.
  rw [encode_append]
  have front := @encode_of_plain encoding plain small
  constructor
  · rintro ⟨_, back, known, written, rfl⟩
    rw [front] at known
    cases known
    exact ⟨back, written, rfl⟩
  · rintro ⟨back, written, rfl⟩
    exact ⟨_, back, front, written, rfl⟩

/-- With plain text in front a text still has bytes. -/
theorem exists_encode_plain_append {plain : Text} (small : ∀ c ∈ plain, c.toNat < 0x80)
    (written : ∃ raw, encoding.encode text = .ok raw) :
    ∃ raw, encoding.encode (plain ++ text) = .ok raw := by
  obtain ⟨raw, encoded⟩ := written
  -- The rest is what could fail.
  exact ⟨_, (encode_plain_append small).mpr ⟨raw, encoded, rfl⟩⟩

/-- What was written is read back as it was. -/
theorem decode_of_encode (encoded : encoding.encode text = .ok bytes) :
    encoding.decode bytes = text := by
  cases encoding with
  | latin1 =>
    obtain ⟨within, rfl⟩ := encode_latin1_eq_ok.mp encoded
    simp only [decode, List.map_map]
    -- The byte of a character that has one is its number.
    have same : ∀ c ∈ text, ((fun b : UInt8 => Char.ofNat b.toNat) ∘
        fun c : Char => UInt8.ofNat c.toNat) c = c := by
      intro c member
      have := within c member
      simp only [Function.comp_apply]
      rw [UInt8.toNat_ofNat_of_lt' (by change _ < 256; omega), Char.ofNat_toNat]
    rw [List.map_congr_left same, List.map_id']
  | utf8 =>
    have same : bytes = Utf8.encode text := by simpa [encode] using encoded.symm
    rw [same]
    exact Utf8.decode_encode text

/-- A plain byte occurs among the bytes as often as its character does in the text. -/
theorem count_of_encode (plain : Char) (small : plain.toNat < 0x80)
    (encoded : encoding.encode text = .ok bytes) :
    bytes.count (UInt8.ofNat plain.toNat) = text.count plain := by
  have number : (UInt8.ofNat plain.toNat).toNat = plain.toNat :=
    UInt8.toNat_ofNat_of_lt' (by change _ < 256; omega)
  -- The bytes of each character hold the plain byte once or not at all.
  induction text generalizing bytes with
  | nil =>
    rw [encode_nil] at encoded
    cases encoded
    rfl
  | cons c text ih =>
    obtain ⟨front, back, first, others, rfl⟩ := encode_cons.mp encoded
    rw [List.count_append, ih others, List.count_cons, Nat.add_comm]
    congr 1
    by_cases same : c = plain
    · subst same
      rw [encode_singleton_of_plain small] at first
      cases first
      simp
    · -- Any other character keeps clear of the byte.
      have absent : UInt8.ofNat plain.toNat ∉ front := by
        intro member
        have number' := ((encode_singleton first).2 _ member (by omega)).2
        rw [number] at number'
        exact same (Char.toNat_inj.mp number')
      simp [List.count_eq_zero_of_not_mem absent, same]

/-- Line ends among the bytes are line ends of the text. -/
theorem count_feed (encoded : encoding.encode text = .ok bytes) :
    bytes.count Line.feed = text.count '\n' :=
  -- No other character has the byte of the line feed.
  count_of_encode '\n' (by decide) encoded

/-- A text without a line end has none among its bytes. -/
theorem feed_not_mem (encoded : encoding.encode text = .ok bytes) (oneLine : '\n' ∉ text) :
    Line.feed ∉ bytes := by
  -- The number of line ends is the same in the text and in the bytes.
  rw [← List.count_eq_zero, count_feed encoded, List.count_eq_zero]
  exact oneLine

/-- The last byte is plain exactly if the last character is. -/
theorem getLast?_of_encode (plain : Char) (small : plain.toNat < 0x80)
    (encoded : encoding.encode text = .ok bytes) :
    bytes.getLast? = some (UInt8.ofNat plain.toNat) ↔ text.getLast? = some plain := by
  have number : (UInt8.ofNat plain.toNat).toNat = plain.toNat :=
    UInt8.toNat_ofNat_of_lt' (by change _ < 256; omega)
  -- What counts is the last character and its bytes.
  rcases List.eq_nil_or_concat text with none | ⟨init, last, rfl⟩
  · subst none
    rw [encode_nil] at encoded
    cases encoded
    simp
  · rw [List.concat_eq_append] at encoded ⊢
    obtain ⟨front, back, _, final, rfl⟩ := encode_append.mp encoded
    obtain ⟨nonempty, alone⟩ := encode_singleton final
    -- The last character has bytes, so the last of them is the last of all.
    have ends : (front ++ back).getLast? = back.getLast? := by
      rw [List.getLast?_append, List.getLast?_eq_some_getLast nonempty]
      rfl
    rw [ends, List.getLast?_append, List.getLast?_singleton, Option.some_or,
      Option.some.injEq]
    constructor
    · intro final
      have numbers := (alone _ (List.mem_of_getLast? final) (by omega)).2
      rw [number] at numbers
      exact Char.toNat_inj.mp numbers
    · rintro rfl
      rw [encode_singleton_of_plain small] at final
      cases final
      rfl

/-- Bytes end in a carriage return exactly if the text does. -/
theorem getLast?_carriageReturn (encoded : encoding.encode text = .ok bytes) :
    bytes.getLast? = some Line.carriageReturn ↔ text.getLast? = some '\r' :=
  -- The byte of the carriage return is that of no other character.
  getLast?_of_encode '\r' (by decide) encoded

end AmigaRemote.Encoding
